import CallAtlas.Proofs.Path.Suffixes
import Mathlib.Data.List.Perm.Basic

/-! Which stored path a path is resolved to. The longest suffix that some stored path ends with
decides: what is shared by several stays so for every shorter suffix, and two matches are enough to
tell. -/
namespace CallAtlas.Resolve

open CallAtlas.Path

theorem firstStored_eq_find? (isStored : String → Bool) (candidates : List String) :
    firstStored (m := Id) (fun f => pure (isStored f)) candidates =
      candidates.find? isStored := by
  induction candidates with
  | nil => rfl
  | cons c cs ih =>
    rw [firstStored, List.find?_cons]
    cases h : isStored c with
    | true => rfl
    | false => exact ih

def onlyMatch? (files : List String) (suffix : String) : Option String :=
  match withSuffix files suffix matchCap with
  | [file] => some file
  | _ => none

theorem firstUnique_eq_findSome? (files suffixes : List String) :
    firstUnique (m := Id) (fun s n => pure (withSuffix files s n)) suffixes =
      suffixes.findSome? (onlyMatch? files) := by
  induction suffixes with
  | nil => rfl
  | cons s ss ih =>
    rw [firstUnique, List.findSome?_cons, ← ih, onlyMatch?, pure_bind]
    rcases withSuffix files s matchCap with _ | ⟨f, _ | ⟨g, rest⟩⟩ <;> rfl

theorem resolveIn_eq (files : List String) (minLength : Int) (path : String) :
    resolveIn files minLength path =
      if (normalize path).isEmpty then none
      else
        ((exactCandidates (normalize path)).find? files.contains).or
          ((suffixCandidates minLength (normalize path)).findSome? (onlyMatch? files)) := by
  unfold resolveIn resolve
  dsimp only
  generalize normalize path = normalized
  by_cases h : normalized.isEmpty = true
  · rw [if_pos h, if_pos h]
    rfl
  · rw [if_neg h, if_neg h, firstStored_eq_find?, firstUnique_eq_findSome?]
    cases (exactCandidates normalized).find? files.contains with
    | none => rfl
    | some f => rfl

section Suffixes

variable {files : List String} {minLength : Int} {path s t f g : String}

/-- A stored path that ends with a suffix. -/
def Matches (files : List String) (s f : String) : Prop :=
  f ∈ files ∧ s.toList <:+ f.toList

def IsOnlyMatch (files : List String) (s f : String) : Prop :=
  Matches files s f ∧ ∀ g, Matches files s g → g = f

def IsShared (files : List String) (s : String) : Prop :=
  ∃ f g, f ≠ g ∧ Matches files s f ∧ Matches files s g

theorem Matches.of_suffix (h : Matches files s f) (hts : t.toList <:+ s.toList) :
    Matches files t f :=
  ⟨h.1, hts.trans h.2⟩

theorem IsShared.of_suffix (h : IsShared files s) (hts : t.toList <:+ s.toList) :
    IsShared files t := by
  obtain ⟨f, g, hne, hf, hg⟩ := h
  exact ⟨f, g, hne, hf.of_suffix hts, hg.of_suffix hts⟩

theorem IsShared.not_isOnlyMatch (h : IsShared files s) : ¬IsOnlyMatch files s f := by
  obtain ⟨a, b, hne, ha, hb⟩ := h
  intro hf
  exact hne ((hf.2 a ha).trans (hf.2 b hb).symm)

theorem onlyMatch?_eq_some_iff (hfiles : files.Nodup) :
    onlyMatch? files s = some f ↔ IsOnlyMatch files s f := by
  have hmem (g : String) : g ∈ (files.filter fun f => s.toList.isSuffixOf f.toList).mergeSort ↔
      Matches files s g := by
    rw [List.mem_mergeSort, List.mem_filter, List.isSuffixOf_iff_suffix, Matches]
  have hnodup : (files.filter fun f => s.toList.isSuffixOf f.toList).mergeSort.Nodup :=
    (List.mergeSort_perm _ _).nodup_iff.mpr (hfiles.filter _)
  unfold onlyMatch? withSuffix matchCap IsOnlyMatch
  generalize (files.filter fun f => s.toList.isSuffixOf f.toList).mergeSort = found at hmem hnodup ⊢
  simp only [← hmem]
  rcases found with _ | ⟨a, _ | ⟨b, rest⟩⟩
  · simp
  · simp [eq_comm]
  · have hab : a ≠ b := by
      rintro rfl
      simp at hnodup
    constructor
    · intro h
      simp at h
    · rintro ⟨-, honly⟩
      exact absurd ((honly a (by simp)).trans (honly b (by simp)).symm) hab

/-- The longest suffix, among those of at least a given length that begin where a segment begins,
that some stored path ends with. -/
structure IsLongestMatch (files : List String) (minLength : Int) (path s : String) : Prop where
  segment : IsSegmentSuffix s.toList path.toList
  long : minLength ≤ s.length
  found : ∃ f, Matches files s f
  longest : ∀ t : String, IsSegmentSuffix t.toList path.toList → minLength ≤ t.length →
    (∃ f, Matches files t f) → t.length ≤ s.length

theorem suffix_of_length_le (hs : s ∈ suffixCandidates minLength path)
    (ht : t ∈ suffixCandidates minLength path) (hle : t.length ≤ s.length) :
    t.toList <:+ s.toList := by
  have hsuffix {u : String} (hu : u ∈ suffixCandidates minLength path) :
      u.toList <:+ path.toList := by
    rcases (mem_suffixCandidates.mp hu).1 with h | h
    · exact h ▸ List.suffix_refl _
    · exact h.suffix
  refine List.suffix_of_suffix_length_le (hsuffix ht) (hsuffix hs) ?_
  simpa [String.length_toList] using hle

theorem IsLongestMatch.mem (h : IsLongestMatch files minLength path s) :
    s ∈ suffixCandidates minLength path :=
  mem_suffixCandidates.mpr ⟨h.segment, h.long⟩

theorem IsLongestMatch.suffix (h : IsLongestMatch files minLength path s)
    (ht : t ∈ suffixCandidates minLength path) (hf : Matches files t f) :
    t.toList <:+ s.toList := by
  obtain ⟨hsegment, hlong⟩ := mem_suffixCandidates.mp ht
  exact suffix_of_length_le h.mem ht (h.longest t hsegment hlong ⟨f, hf⟩)

theorem exists_isLongestMatch (ht : t ∈ suffixCandidates minLength path)
    (hf : Matches files t f) : ∃ s, IsLongestMatch files minLength path s := by
  classical
  have hpairwise := (pairwise_suffixCandidates minLength path).filter
    fun s => decide (∃ f, Matches files s f)
  have hmem (s : String) : s ∈ (suffixCandidates minLength path).filter
      (fun s => decide (∃ f, Matches files s f)) ↔
        s ∈ suffixCandidates minLength path ∧ ∃ f, Matches files s f := by
    simp
  generalize (suffixCandidates minLength path).filter
    (fun s => decide (∃ f, Matches files s f)) = matched at hpairwise hmem
  cases matched with
  | nil => exact absurd ((hmem t).mpr ⟨ht, f, hf⟩) List.not_mem_nil
  | cons s rest =>
    obtain ⟨hs, hfound⟩ := (hmem s).mp List.mem_cons_self
    obtain ⟨hsegment, hlong⟩ := mem_suffixCandidates.mp hs
    refine ⟨s, hsegment, hlong, hfound, fun u husegment hulong hufound => ?_⟩
    have hu := (hmem u).mpr ⟨mem_suffixCandidates.mpr ⟨husegment, hulong⟩, hufound⟩
    rcases List.mem_cons.mp hu with rfl | hu
    · exact Nat.le_refl _
    · have hlt := ((List.pairwise_cons.mp hpairwise).1 u hu).length_lt
      rw [String.length_toList, String.length_toList] at hlt
      exact Nat.le_of_lt hlt

theorem findSome?_eq_some_iff (hfiles : files.Nodup) :
    (suffixCandidates minLength path).findSome? (onlyMatch? files) = some f ↔
      ∃ s, IsLongestMatch files minLength path s ∧ IsOnlyMatch files s f := by
  rw [List.findSome?_eq_some_iff]
  constructor
  · rintro ⟨before, t, after, hsplit, ht, hbefore⟩
    have hmem : t ∈ suffixCandidates minLength path := by simp [hsplit]
    have honly := (onlyMatch?_eq_some_iff hfiles).mp ht
    obtain ⟨s, hs⟩ := exists_isLongestMatch hmem honly.1
    obtain ⟨g, hg⟩ := hs.found
    have hts := hs.suffix hmem honly.1
    -- What the longest one matches, the shorter one matches too.
    have hsonly : IsOnlyMatch files s f := by
      refine ⟨honly.2 g (hg.of_suffix hts) ▸ hg, fun x hx => honly.2 x (hx.of_suffix hts)⟩
    exact ⟨s, hs, hsonly⟩
  · rintro ⟨s, hs, honly⟩
    obtain ⟨before, after, hsplit⟩ := List.append_of_mem hs.mem
    refine ⟨before, s, after, hsplit, (onlyMatch?_eq_some_iff hfiles).mpr honly, fun t ht => ?_⟩
    have hpairwise := pairwise_suffixCandidates minLength path
    rw [hsplit, List.pairwise_append] at hpairwise
    have hlt := (hpairwise.2.2 t ht s List.mem_cons_self).length_lt
    have hmem : t ∈ suffixCandidates minLength path := by simp [hsplit, ht]
    rw [Option.eq_none_iff_forall_ne_some]
    intro g hg
    have hg' := (onlyMatch?_eq_some_iff hfiles).mp hg
    have hle := (hs.suffix hmem hg'.1).length_le
    exact absurd hlt (Nat.not_lt.mpr hle)

theorem findSome?_eq_none_iff (hfiles : files.Nodup) :
    (suffixCandidates minLength path).findSome? (onlyMatch? files) = none ↔
      (∀ s : String, IsSegmentSuffix s.toList path.toList → minLength ≤ s.length →
        ∀ f, ¬Matches files s f) ∨
      ∃ s, IsLongestMatch files minLength path s ∧ IsShared files s := by
  constructor
  · intro hnone
    by_cases hmatch : ∃ s ∈ suffixCandidates minLength path, ∃ f, Matches files s f
    · obtain ⟨t, ht, f, hf⟩ := hmatch
      obtain ⟨s, hs⟩ := exists_isLongestMatch ht hf
      obtain ⟨f, hf⟩ := hs.found
      refine Or.inr ⟨s, hs, ?_⟩
      by_contra hshared
      have honly : IsOnlyMatch files s f := by
        refine ⟨hf, fun g hg => ?_⟩
        by_contra hne
        exact hshared ⟨g, f, hne, hg, hf⟩
      have hsome := (findSome?_eq_some_iff hfiles).mpr ⟨s, hs, honly⟩
      rw [hnone] at hsome
      contradiction
    · refine Or.inl fun s hsegment hlong f hf => hmatch ?_
      exact ⟨s, mem_suffixCandidates.mpr ⟨hsegment, hlong⟩, f, hf⟩
  · intro h
    rw [Option.eq_none_iff_forall_ne_some]
    intro f hf
    obtain ⟨s, hs, honly⟩ := (findSome?_eq_some_iff hfiles).mp hf
    rcases h with hnone | ⟨t, ht, hshared⟩
    · exact hnone s hs.segment hs.long f honly.1
    · obtain ⟨g, hg⟩ := ht.found
      exact (hshared.of_suffix (ht.suffix hs.mem honly.1)).not_isOnlyMatch honly

end Suffixes

/-- A path itself, without one `./` in front of it, and without the slashes in front of it. -/
def forms (path : String) : List String :=
  let cs := path.toList
  [path, String.ofList (if ['.', '/'].isPrefixOf cs then cs.drop 2 else cs),
    String.ofList (cs.dropWhile isSlash)]

theorem find?_eraseDups (p : String → Bool) (l : List String) :
    l.eraseDups.find? p = l.find? p := by
  induction h : l.length using Nat.strongRecOn generalizing l with
  | ind n ih =>
    cases l with
    | nil => rfl
    | cons a as =>
      rw [List.length_cons] at h
      have hshorter : (as.filter fun b => !b == a).length < n :=
        h ▸ Nat.lt_succ_of_le (List.length_filter_le _ _)
      rw [List.eraseDups_cons, List.find?_cons, List.find?_cons, ih _ hshorter _ rfl,
        List.find?_filter]
      cases ha : p a with
      | true => rfl
      | false =>
        change List.find? _ as = List.find? p as
        congr 1
        funext b
        by_cases hb : b = a <;> simp [hb, ha]

theorem find?_exactCandidates (p : String → Bool) (path : String) :
    (exactCandidates path).find? p = (forms path).find? fun f => !f.isEmpty && p f := by
  have hforms : exactCandidates path = ((forms path).filter (!·.isEmpty)).eraseDups := by
    unfold exactCandidates forms
    dsimp only
    split
    · rename_i rest h
      have hdots : (if ['.', '/'].isPrefixOf path.toList then path.toList.drop 2
          else path.toList) = rest := by simp [h]
      rw [hdots]
      simp
    · rename_i h
      have hdots : (if ['.', '/'].isPrefixOf path.toList then path.toList.drop 2
          else path.toList) = path.toList := by
        rw [if_neg]
        intro hprefix
        obtain ⟨rest, hrest⟩ := List.isPrefixOf_iff_prefix.mp hprefix
        exact h rest hrest.symm
      rw [hdots]
      simp
  rw [hforms, find?_eraseDups, List.find?_filter]
  congr 1
  funext f
  by_cases hf : f = "" <;> simp [hf]

/-- A stored path is the first of a path's forms that is stored. The empty form does not count. -/
def IsFirstStored (files : List String) (path f : String) : Prop :=
  ∃ before after, forms path = before ++ f :: after ∧ f ≠ "" ∧ f ∈ files ∧
    ∀ c ∈ before, c ≠ "" → c ∉ files

def IsNoneStored (files : List String) (path : String) : Prop :=
  ∀ c ∈ forms path, c ≠ "" → c ∉ files

section Forms

variable {files : List String} {path f : String}

theorem find?_exactCandidates_eq_some_iff :
    (exactCandidates path).find? files.contains = some f ↔ IsFirstStored files path f := by
  have hstored (c : String) : (!c.isEmpty && files.contains c) = true ↔ c ≠ "" ∧ c ∈ files := by
    simp
  have hnot (c : String) : (!(!c.isEmpty && files.contains c)) = true ↔ (c ≠ "" → c ∉ files) := by
    rw [Bool.not_eq_true', ← Bool.not_eq_true, hstored, not_and]
  rw [find?_exactCandidates, List.find?_eq_some_iff_append]
  simp only [hstored, hnot]
  constructor
  · rintro ⟨⟨hne, hmem⟩, before, after, hsplit, hbefore⟩
    exact ⟨before, after, hsplit, hne, hmem, hbefore⟩
  · rintro ⟨before, after, hsplit, hne, hmem, hbefore⟩
    exact ⟨⟨hne, hmem⟩, before, after, hsplit, hbefore⟩

theorem find?_exactCandidates_eq_none_iff :
    (exactCandidates path).find? files.contains = none ↔ IsNoneStored files path := by
  rw [find?_exactCandidates, List.find?_eq_none, IsNoneStored]
  simp

end Forms

theorem isNoneStored_empty (files : List String) : IsNoneStored files "" := by
  have hforms : forms "" = ["", "", ""] := by decide
  intro c hc hne
  rw [hforms] at hc
  simp [hne] at hc

theorem length_lt_of_isSegmentSuffix_empty {s : String} {minLength : Int} (hmin : 1 ≤ minLength)
    (hs : IsSegmentSuffix s.toList "".toList) : s.length < minLength := by
  have hnil : s.toList = [] := by
    rcases hs with hs | ⟨before, hs⟩
    · simpa using hs
    · simp at hs
  rw [← String.length_toList, hnil, List.length_nil]
  omega

/-- A path resolves to the first of its forms that is stored, and else to what its longest matching
suffix settles: a stored path that alone ends with it. It stays open where nothing matches or that
suffix is shared; no shorter one is taken instead. -/
theorem resolveIn_by_longest_match (files : List String) (hfiles : files.Nodup) (minLength : Int)
    (hmin : 1 ≤ minLength) (path : String) :
    let p := normalize path
    (∀ f, resolveIn files minLength path = some f ↔
      p ≠ "" ∧ (IsFirstStored files p f ∨
        IsNoneStored files p ∧
          ∃ s, IsLongestMatch files minLength p s ∧ IsOnlyMatch files s f)) ∧
    (resolveIn files minLength path = none ↔
      IsNoneStored files p ∧
        ((∀ s : String, IsSegmentSuffix s.toList p.toList → minLength ≤ s.length →
          ∀ f, ¬Matches files s f) ∨
        ∃ s, IsLongestMatch files minLength p s ∧ IsShared files s)) := by
  intro p
  rw [resolveIn_eq]
  by_cases hp : p = ""
  · have hempty : (normalize path).isEmpty = true := by simpa using hp
    have hnothing : ∀ s : String, IsSegmentSuffix s.toList "".toList → minLength ≤ s.length →
        ∀ f, ¬Matches files s f := fun s hs hlong =>
      absurd hlong (Int.not_le.mpr (length_lt_of_isSegmentSuffix_empty hmin hs))
    rw [if_pos hempty, hp]
    exact ⟨fun f => by simp, fun _ => ⟨isNoneStored_empty files, Or.inl hnothing⟩, fun _ => rfl⟩
  · have hempty : ¬(normalize path).isEmpty = true := by simpa using hp
    rw [if_neg hempty]
    constructor
    · intro f
      rw [Option.or_eq_some_iff, find?_exactCandidates_eq_some_iff,
        find?_exactCandidates_eq_none_iff, findSome?_eq_some_iff hfiles]
      exact ⟨fun h => ⟨hp, h⟩, And.right⟩
    · rw [Option.or_eq_none_iff, find?_exactCandidates_eq_none_iff, findSome?_eq_none_iff hfiles]

theorem resolveIn_by_longest_match_of_shared :
    let files := ["a/x.go", "lib/y.go", "b/x.go"]
    files.Nodup ∧ (1 : Int) ≤ 1 ∧ resolveIn files 1 " /home\\x.go" = none := by
  refine ⟨by decide, by decide, ?_⟩
  refine (resolveIn_by_longest_match _ (by decide) 1 (by decide) _).2.mpr ⟨?_, Or.inr ⟨"x.go", ?_⟩⟩
  · unfold IsNoneStored
    decide
  · have hcandidates : suffixCandidates 1 (normalize " /home\\x.go") =
        ["/home/x.go", "home/x.go", "x.go"] := by decide
    refine ⟨⟨?_, by decide, ⟨"a/x.go", by decide, by decide⟩, fun t hsegment hlong => ?_⟩, ?_⟩
    · have hx : "x.go" ∈ suffixCandidates 1 (normalize " /home\\x.go") := by
        rw [hcandidates]
        decide
      exact (mem_suffixCandidates.mp hx).1
    · rintro ⟨f, hf, hends⟩
      have ht := mem_suffixCandidates.mpr ⟨hsegment, hlong⟩
      rw [hcandidates] at ht
      simp only [List.mem_cons, List.not_mem_nil, or_false] at ht hf
      rcases ht with rfl | rfl | rfl
      · rcases hf with rfl | rfl | rfl <;> exact absurd hends (by decide)
      · rcases hf with rfl | rfl | rfl <;> exact absurd hends (by decide)
      · decide
    · exact ⟨"a/x.go", "b/x.go", by decide, ⟨by decide, by decide⟩, ⟨by decide, by decide⟩⟩

theorem root_not_resolved_to_empty :
    ¬∀ f, resolveIn [""] 1 "/" = some f ↔ normalize "/" ≠ "" ∧
      ((∃ before after, forms (normalize "/") = before ++ f :: after ∧ f ∈ [""] ∧
          ∀ c ∈ before, c ∉ [""]) ∨
        ((∀ c ∈ forms (normalize "/"), c ∉ [""]) ∧
          ∃ s, IsLongestMatch [""] 1 (normalize "/") s ∧ IsOnlyMatch [""] s f)) := by
  intro h
  have hroot : normalize "/" = "/" := by decide
  have hforms : forms "/" = ["/", "/"] ++ "" :: [] := by decide
  have hsome : resolveIn [""] 1 "/" = some "" := by
    rw [h, hroot]
    exact ⟨by decide, Or.inl ⟨["/", "/"], [], hforms, by decide, by decide⟩⟩
  have hnone : IsNoneStored [""] "/" := by
    unfold IsNoneStored
    decide
  have hnothing : ∀ s : String, IsSegmentSuffix s.toList "/".toList → 1 ≤ (s.length : Int) →
      ∀ f, ¬Matches [""] s f := by
    rintro s - hlong f ⟨hf, hends⟩
    rw [List.mem_singleton.mp hf] at hends
    have hle := hends.length_le
    rw [String.length_toList] at hle
    simp only [String.toList_empty, List.length_nil] at hle
    omega
  rw [resolveIn_eq, hroot, if_neg (by decide), find?_exactCandidates_eq_none_iff.mpr hnone,
    (findSome?_eq_none_iff (by decide)).mpr (Or.inl hnothing)] at hsome
  contradiction

end CallAtlas.Resolve
