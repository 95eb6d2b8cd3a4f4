import CallAtlas.Proofs.Path.Suffixes
import Mathlib.Data.List.Sort

/-! The suffixes that a path is searched by, one segment after the other. A suffix is kept unless it
is too short or there already; none ever is, since those kept before it are longer. What is kept is
known by its members alone, as the longest come first. -/
namespace CallAtlas.Resolve

open CallAtlas.Path

theorem tails_eq_map_drop {α : Type} (l : List α) : tails l = (List.range l.length).map l.drop := by
  induction l with
  | nil => rfl
  | cons a l ih => simp [tails, ih, List.range_succ_eq_map]

theorem suffixes_eq_map_range (path : List Char) :
    suffixes path =
      (List.range (segments path).length).map fun n => join ((segments path).drop n) := by
  rw [suffixes, tails_eq_map_drop, List.map_map, Function.comp_def]

def fromSegment (path : String) (n : Nat) : String :=
  String.ofList (join ((segments path.toList).drop n))

def collect (minLength : Int) (kept : List String) (s : String) : List String :=
  if s.length < minLength ∨ s ∈ kept then kept else kept ++ [s]

def collected (minLength : Int) (path : String) : Nat → List String
  | 0 => []
  | n + 1 => collect minLength (collected minLength path n) (fromSegment path n)

section Collected

variable {minLength : Int} {path s : String} {m n : Nat}

theorem isBelow_fromSegment (hmn : m < n) (hn : n < (segments path.toList).length) :
    IsBelow (fromSegment path n).toList (fromSegment path m).toList := by
  have hpairwise := pairwise_suffixes path.toList
  rw [suffixes_eq_map_range, List.pairwise_map] at hpairwise
  have hbelow := List.pairwise_iff_getElem.mp hpairwise m n
  simp only [List.length_range, List.getElem_range] at hbelow
  simpa [fromSegment] using hbelow (Nat.lt_trans hmn hn) hn hmn

theorem length_fromSegment_lt (hmn : m < n) (hn : n < (segments path.toList).length) :
    (fromSegment path n).length < (fromSegment path m).length := by
  simpa [String.length_toList] using (isBelow_fromSegment hmn hn).length_lt

theorem mem_collect {kept : List String} {t : String} (h : t ∈ collect minLength kept s) :
    t ∈ kept ∨ t = s := by
  unfold collect at h
  split at h
  · exact Or.inl h
  · simpa using h

theorem exists_of_mem_collected (h : s ∈ collected minLength path n) :
    ∃ m < n, s = fromSegment path m := by
  induction n with
  | zero => cases h
  | succ n ih =>
    rcases mem_collect h with hkept | hlast
    · obtain ⟨m, hm, hs⟩ := ih hkept
      exact ⟨m, Nat.lt_succ_of_lt hm, hs⟩
    · exact ⟨n, Nat.lt_succ_self n, hlast⟩

/-- The next suffix is shorter than all that is kept, and so not there already. -/
theorem fromSegment_not_mem_collected (hn : n < (segments path.toList).length) :
    fromSegment path n ∉ collected minLength path n := by
  intro hmem
  obtain ⟨m, hm, heq⟩ := exists_of_mem_collected hmem
  exact Nat.ne_of_lt (length_fromSegment_lt hm hn) (congrArg String.length heq)

theorem collected_eq_filter (hn : n ≤ (segments path.toList).length) :
    collected minLength path n =
      ((List.range n).map (fromSegment path)).filter fun s => decide (minLength ≤ s.length) := by
  induction n with
  | zero => rfl
  | succ n ih =>
    have hnew : fromSegment path n ∉ collected minLength path n :=
      fromSegment_not_mem_collected hn
    rw [collected, collect, List.range_succ, List.map_append, List.filter_append,
      ← ih (Nat.le_of_succ_le hn)]
    by_cases hlong : minLength ≤ (fromSegment path n).length
    · simp [hnew, hlong]
    · simp [hlong, Int.not_le.mp hlong]

theorem collected_eq_suffixCandidates (minLength : Int) (path : String) :
    collected minLength path (segments path.toList).length = suffixCandidates minLength path := by
  rw [collected_eq_filter (Nat.le_refl _), suffixCandidates_eq, suffixes_eq_map_range]
  simp [List.filter_map, Function.comp_def, fromSegment]

end Collected

/-- A list holds the suffixes that begin a segment and are not too short, the longest first. -/
structure ListsSuffixes (minLength : Int) (path : String) (l : List String) : Prop where
  mem_iff : ∀ s, s ∈ l ↔ IsSegmentSuffix s.toList path.toList ∧ minLength ≤ s.length
  decreasing : l.Pairwise fun s t => t.length < s.length

section ListsSuffixes

variable {minLength : Int} {path : String} {l l' : List String}

theorem ListsSuffixes.nodup (h : ListsSuffixes minLength path l) : l.Nodup :=
  h.decreasing.imp fun hlt heq => Nat.ne_of_gt hlt (congrArg String.length heq)

theorem ListsSuffixes.unique (h : ListsSuffixes minLength path l)
    (h' : ListsSuffixes minLength path l') : l = l' := by
  have : Std.Asymm fun s t : String => t.length < s.length := ⟨fun _ _ => Nat.lt_asymm⟩
  refine h.decreasing.eq_of_mem_iff h'.decreasing fun s => ?_
  rw [h.mem_iff, h'.mem_iff]

theorem listsSuffixes_suffixCandidates (minLength : Int) (path : String) :
    ListsSuffixes minLength path (suffixCandidates minLength path) := by
  refine ⟨fun s => mem_suffixCandidates, ?_⟩
  exact (pairwise_suffixCandidates minLength path).imp fun h => by
    simpa [String.length_toList] using h.length_lt

end ListsSuffixes

/-- A path is searched by exactly those of its suffixes that begin a segment and are not too short.
They come in decreasing length, none twice and each a proper suffix of the one before; as they are
collected, the next one is never there already. -/
theorem suffixCandidates_longest_first (minLength : Int) (path : String) :
    let candidates := suffixCandidates minLength path
    (∀ l, ListsSuffixes minLength path l ↔ l = candidates) ∧
    candidates.Nodup ∧
    candidates.IsChain (fun s t => t.toList <:+ s.toList ∧ t ≠ s) ∧
    (∀ n < (segments path.toList).length, fromSegment path n ∉ collected minLength path n) ∧
    collected minLength path (segments path.toList).length = candidates := by
  intro candidates
  have hlists := listsSuffixes_suffixCandidates minLength path
  refine ⟨fun l => ⟨fun h => h.unique hlists, fun h => h ▸ hlists⟩, hlists.nodup, ?_,
    fun n hn => fromSegment_not_mem_collected hn, collected_eq_suffixCandidates minLength path⟩
  have hproper : candidates.Pairwise fun s t => t.toList <:+ s.toList ∧ t ≠ s := by
    refine (pairwise_suffixCandidates minLength path).imp fun h => ⟨h.suffix, fun heq => ?_⟩
    exact Nat.ne_of_lt h.length_lt (congrArg (fun s => s.toList.length) heq)
  exact hproper.isChain

/-- Slashes in front, doubled and at the end leave empty segments. -/
example : suffixCandidates 1 "//a//b/" =
    ["//a//b/", "/a//b/", "a//b/", "/b/", "b/"] := by decide

end CallAtlas.Resolve
