import CallAtlas.Proofs.Browser.Files
import Mathlib.Data.List.Sort
import Mathlib.Data.String.Basic

/-! The tree of files none of which lies below another. Its directories are what lies between the
root and a file, a listing has each directory and each file directly below once, directories first
and both by name, and the order in which the files were added does not show. -/
namespace CallAtlas.Browser

open CallAtlas.Path

variable {b : Browser} {files other : List (String × Json)} {f g : String × Json} {p : String}
  {e x : Entry}

def Precedes (a b : Entry) : Prop :=
  a.isFile = false ∧ b.isFile = true ∨ a.isFile = b.isFile ∧ a.name < b.name

theorem Precedes.asymm {a b : Entry} (h : Precedes a b) : ¬Precedes b a := by
  rintro (⟨hb, ha⟩ | ⟨hkind, hlt⟩) <;> rcases h with ⟨ha', hb'⟩ | ⟨hkind', hlt'⟩
  · simp_all
  · simp_all
  · simp_all
  · exact lt_asymm hlt hlt'

theorem before_iff {a b : Entry} : a.before b = true ↔
    a.isFile = false ∧ b.isFile = true ∨ a.isFile = b.isFile ∧ a.name ≤ b.name := by
  unfold Entry.before
  cases ha : a.isFile <;> cases hb : b.isFile <;> simp

theorem before_trans (a b c : Entry) (hab : a.before b = true) (hbc : b.before c = true) :
    a.before c = true := by
  rw [before_iff] at *
  rcases hab with ⟨ha, hb⟩ | ⟨hkind, hle⟩
  · rcases hbc with ⟨hb', -⟩ | ⟨hkind', -⟩
    · simp_all
    · exact Or.inl ⟨ha, hkind' ▸ hb⟩
  · rcases hbc with ⟨hb, hc⟩ | ⟨hkind', hle'⟩
    · exact Or.inl ⟨hkind.trans hb, hc⟩
    · exact Or.inr ⟨hkind.trans hkind', hle.trans hle'⟩

theorem before_total (a b : Entry) : (a.before b || b.before a) = true := by
  rw [Bool.or_eq_true, before_iff, before_iff]
  cases ha : a.isFile <;> cases hb : b.isFile <;> simp [le_total]

theorem nodup_list (h : b.Sound) (p : String) : (b.list p).Nodup :=
  (List.mergeSort_perm _ _).nodup_iff.mpr (h.names p).of_map

theorem pairwise_list (h : b.Sound) (p : String) : (b.list p).Pairwise Precedes := by
  have hnames : (b.list p).Pairwise fun a b => a.name ≠ b.name := by
    rw [← List.pairwise_map]
    exact ((List.mergeSort_perm _ _).map Entry.name).nodup_iff.mpr (h.names p)
  have hsorted : (b.list p).Pairwise fun a b => a.before b = true :=
    List.pairwise_mergeSort before_trans before_total _
  refine (hsorted.and hnames).imp fun ⟨hbefore, hne⟩ => ?_
  exact (before_iff.mp hbefore).imp_right fun ⟨hkind, hle⟩ => ⟨hkind, lt_of_le_of_ne hle hne⟩

theorem list_eq_of_mem_iff {b' : Browser} (h : b.Sound) (h' : b'.Sound)
    (hmem : ∀ e, e ∈ b.list p ↔ e ∈ b'.list p) : b.list p = b'.list p := by
  have : Std.Asymm Precedes := ⟨fun _ _ => Precedes.asymm⟩
  exact (pairwise_list h p).eq_of_mem_iff (pairwise_list h' p) hmem

def ofKind (isFile : Bool) (l : List Entry) : List Entry :=
  l.filter (·.isFile == isFile)

theorem eq_append_of_precedes {l : List Entry} (h : l.Pairwise Precedes) :
    l = ofKind false l ++ ofKind true l := by
  induction l with
  | nil => rfl
  | cons e l ih =>
    obtain ⟨he, hl⟩ := List.pairwise_cons.mp h
    cases hfile : e.isFile with
    | false => simpa [ofKind, hfile] using ih hl
    | true =>
      have hfiles : ∀ x ∈ l, x.isFile = true := by
        intro x hx
        rcases he x hx with ⟨hdirectory, -⟩ | ⟨hkind, -⟩
        · rw [hfile] at hdirectory
          contradiction
        · exact hkind ▸ hfile
      have hnone : ofKind false (e :: l) = [] := by simpa [ofKind, hfile] using hfiles
      have hall : ofKind true (e :: l) = e :: l := by simpa [ofKind, hfile] using hfiles
      rw [hnone, hall, List.nil_append]

theorem pairwise_ofKind {l : List Entry} (h : l.Pairwise Precedes) (isFile : Bool) :
    (ofKind isFile l).Pairwise (·.name < ·.name) := by
  refine (h.filter _).imp_of_mem fun {a b} ha hb hab => ?_
  have ha' : a.isFile = isFile := by simpa using (List.mem_filter.mp ha).2
  have hb' : b.isFile = isFile := by simpa using (List.mem_filter.mp hb).2
  rcases hab with ⟨hdirectory, hfile⟩ | ⟨-, hlt⟩
  · simp_all
  · exact hlt

theorem shownBy_and_isDirectory_iff : ShownBy f p e ∧ e.isFile = false ↔
    ∃ above name next below, namesOf f.1 = above ++ name :: next :: below ∧ p = pathOf above ∧
      e = .directory (String.ofList name) (pathOf (above ++ [name])) := by
  rw [shownBy_iff]
  constructor
  · rintro ⟨⟨above, name, _ | ⟨next, below⟩, hnames, hp, rfl⟩, hfile⟩
    · simp [entryAt, Entry.isFile] at hfile
    · exact ⟨above, name, next, below, hnames, hp, rfl⟩
  · rintro ⟨above, name, next, below, hnames, hp, rfl⟩
    exact ⟨⟨above, name, next :: below, hnames, hp, rfl⟩, rfl⟩

theorem shownBy_and_isFile_iff : ShownBy f p e ∧ e.isFile = true ↔
    ∃ above name, namesOf f.1 = above ++ [name] ∧ p = pathOf above ∧
      e = .file (String.ofList name) (pathOf (namesOf f.1)) f.2 := by
  rw [shownBy_iff]
  constructor
  · rintro ⟨⟨above, name, _ | ⟨next, below⟩, hnames, hp, rfl⟩, hfile⟩
    · exact ⟨above, name, hnames, hp, by rw [hnames, entryAt]⟩
    · simp [entryAt, Entry.isFile] at hfile
  · rintro ⟨above, name, hnames, hp, rfl⟩
    exact ⟨⟨above, name, [], hnames, hp, by rw [hnames, entryAt]⟩, rfl⟩

theorem ShownBy.directory_eq {q : String} (hf : ShownBy f p e) (hg : ShownBy g q e) : p = q := by
  obtain ⟨above, name, below, hnames, rfl, he⟩ := shownBy_iff.mp hf
  obtain ⟨above', name', below', hnames', rfl, he'⟩ := shownBy_iff.mp hg
  have hpath : pathOf (above ++ [name]) = pathOf (above' ++ [name']) := by
    rw [← path_entryAt f.2 above name below, ← he, he', path_entryAt]
  have hplace : above ++ [name] = above' ++ [name'] :=
    (pathOf_inj (isName_place hnames) (isName_place hnames')).mp hpath
  rw [(List.append_inj' hplace rfl).1]

/-- Neither of two files has the path of the other or lies below it. Files without names, which are
not entered, do not count. -/
def IsApartFrom (f g : String × Json) : Prop :=
  namesOf f.1 ≠ [] → namesOf g.1 ≠ [] →
    ¬namesOf f.1 <+: namesOf g.1 ∧ ¬namesOf g.1 <+: namesOf f.1

instance (f g : String × Json) : Decidable (IsApartFrom f g) :=
  inferInstanceAs (Decidable (_ → _ → _ ∧ _))

theorem IsApartFrom.symm (h : IsApartFrom f g) : IsApartFrom g f := fun hg hf => (h hf hg).symm

theorem IsApartFrom.entry_eq (h : IsApartFrom f g) (hx : ShownBy f p x) (he : ShownBy g p e)
    (hname : x.name = e.name) : x = e := by
  obtain ⟨above, name, below, hnames, hp, rfl⟩ := shownBy_iff.mp hx
  obtain ⟨above', name', below', hnames', hp', rfl⟩ := shownBy_iff.mp he
  obtain ⟨rfl, rfl⟩ := names_eq hnames hnames' (hp.symm.trans hp') (by simpa using hname)
  obtain ⟨hfg, hgf⟩ := h (by simp [hnames]) (by simp [hnames'])
  cases below with
  | nil => exact absurd ⟨below', by simp [hnames, hnames']⟩ hfg
  | cons next below =>
    cases below' with
    | nil => exact absurd ⟨next :: below, by simp [hnames, hnames']⟩ hgf
    | cons next' below' => rfl

theorem mem_list_of_apart (h : files.Pairwise IsApartFrom) :
    e ∈ (ofFiles files).list p ↔ ∃ f ∈ files, ShownBy f p e := by
  rw [mem_list]
  induction files using List.reverseRecOn with
  | nil => by_cases hp : "" = p <;> simp [ofFiles, empty, entries, hp]
  | append_singleton files f ih =>
    obtain ⟨hfiles, -, hf⟩ := List.pairwise_append.mp h
    rw [(adds_concat files f).mem, ih hfiles]
    constructor
    · rintro (he | ⟨⟨g, hg, he⟩, -⟩)
      · exact ⟨f, by simp, he⟩
      · exact ⟨g, List.mem_append_left _ hg, he⟩
    · rintro ⟨g, hg, he⟩
      rcases List.mem_append.mp hg with hg | hg
      · by_cases hshows : ∃ x, ShownBy f p x ∧ x.name = e.name
        · obtain ⟨x, hx, hname⟩ := hshows
          have hxe := (hf g hg f (by simp)).symm.entry_eq hx he hname
          exact Or.inl (hxe ▸ hx)
        · exact Or.inr ⟨⟨g, hg, he⟩, fun x hx hname => hshows ⟨x, hx, hname⟩⟩
      · exact Or.inl (List.mem_singleton.mp hg ▸ he)

def leaf (f : String × Json) : Entry :=
  .file (String.ofList ((namesOf f.1).getLast?.getD [])) (pathOf (namesOf f.1)) f.2

theorem exists_shownBy_eq_leaf_iff : (∃ p, ShownBy f p e ∧ e.isFile = true) ↔
    namesOf f.1 ≠ [] ∧ e = leaf f := by
  simp only [shownBy_and_isFile_iff]
  constructor
  · rintro ⟨p, above, name, hnames, -, rfl⟩
    exact ⟨by simp [hnames], by simp [leaf, hnames]⟩
  · rintro ⟨hne, rfl⟩
    obtain ⟨above, name, hnames⟩ := (List.eq_nil_or_concat' _).resolve_left hne
    exact ⟨_, above, name, hnames, rfl, by simp [leaf, hnames]⟩

theorem mem_leaves_iff (h : files.Pairwise IsApartFrom) :
    e ∈ ((ofFiles files).paths.flatMap (ofFiles files).list).filter Entry.isFile ↔
      e ∈ (files.filter fun f => namesOf f.1 ≠ []).map leaf := by
  rw [List.mem_filter, List.mem_flatMap, List.mem_map]
  simp only [mem_list_of_apart h, List.mem_filter, decide_eq_true_eq]
  constructor
  · rintro ⟨⟨p, -, f, hf, he⟩, hfile⟩
    obtain ⟨hne, rfl⟩ := exists_shownBy_eq_leaf_iff.mp ⟨p, he, hfile⟩
    exact ⟨f, ⟨hf, hne⟩, rfl⟩
  · rintro ⟨f, ⟨hf, hne⟩, rfl⟩
    obtain ⟨p, he, hfile⟩ := exists_shownBy_eq_leaf_iff.mpr ⟨hne, rfl⟩
    have hknown : p ∈ (ofFiles files).paths :=
      has_iff.mp (has_ofFiles.mpr (Or.inr ⟨f, hf, _, he⟩))
    exact ⟨⟨p, hknown, f, hf, he⟩, hfile⟩

theorem nodup_listings (files : List (String × Json)) :
    ((ofFiles files).paths.flatMap (ofFiles files).list).Nodup := by
  obtain ⟨hsound, -⟩ := sound_ofFiles files
  refine List.nodup_flatMap.mpr
    ⟨fun p _ => nodup_list hsound p, hsound.paths.imp fun {p q} hne => ?_⟩
  intro e hp hq
  obtain ⟨-, f, -, -, hf, -⟩ := mem_entries_ofFiles.mp (mem_list.mp hp)
  obtain ⟨-, g, -, -, hg, -⟩ := mem_entries_ofFiles.mp (mem_list.mp hq)
  exact hne (hf.directory_eq hg)

theorem nodup_leaves (h : files.Pairwise IsApartFrom) :
    ((files.filter fun f => namesOf f.1 ≠ []).map leaf).Nodup := by
  refine List.pairwise_map.mpr (List.pairwise_filter.mpr (h.imp fun hapart hf hg hleaf => ?_))
  obtain ⟨-, hpath, -⟩ := Entry.file.inj hleaf
  have hnames := (pathOf_inj isName_of_mem_namesOf isName_of_mem_namesOf).mp hpath
  exact (hapart (by simpa using hf) (by simpa using hg)).1 ⟨[], by simp [hnames]⟩

theorem mem_ofKind_list (h : files.Pairwise IsApartFrom) {isFile : Bool} :
    e ∈ ofKind isFile ((ofFiles files).list p) ↔
      ∃ f ∈ files, ShownBy f p e ∧ e.isFile = isFile := by
  simp only [ofKind, List.mem_filter, mem_list_of_apart h, beq_iff_eq]
  constructor
  · rintro ⟨⟨f, hf, he⟩, hkind⟩
    exact ⟨f, hf, he, hkind⟩
  · rintro ⟨f, hf, he, hkind⟩
    exact ⟨⟨f, hf, he⟩, hkind⟩

/-- The listings of a tree are told by its files, in whatever order they were added: a directory for
each name with files below it, then the files directly there. -/
theorem list_ofFiles (files : List (String × Json)) (h : files.Pairwise IsApartFrom) :
    let b := ofFiles files
    (∀ p, b.has p = true ↔ p = "" ∨
      ∃ f ∈ files, ∃ above below, above ≠ [] ∧ below ≠ [] ∧ namesOf f.1 = above ++ below ∧
        p = pathOf above) ∧
    (∀ p, ∃ directories leaves, b.list p = directories ++ leaves ∧ (b.list p).Nodup ∧
      directories.Pairwise (·.name < ·.name) ∧ leaves.Pairwise (·.name < ·.name) ∧
      (∀ e, e ∈ directories ↔ ∃ f ∈ files, ∃ above name next below,
        namesOf f.1 = above ++ name :: next :: below ∧ p = pathOf above ∧
          e = .directory (String.ofList name) (pathOf (above ++ [name]))) ∧
      ∀ e, e ∈ leaves ↔ ∃ f ∈ files, ∃ above name,
        namesOf f.1 = above ++ [name] ∧ p = pathOf above ∧
          e = .file (String.ofList name) (pathOf (namesOf f.1)) f.2) ∧
    ((b.paths.flatMap b.list).filter Entry.isFile).Perm
      ((files.filter fun f => namesOf f.1 ≠ []).map leaf) ∧
    ∀ other, files.Perm other → ∀ p,
      (ofFiles other).has p = b.has p ∧ (ofFiles other).list p = b.list p := by
  obtain ⟨hsound, -⟩ := sound_ofFiles files
  refine ⟨fun p => has_ofFiles_iff, fun p => ?_, ?_, fun other hperm p => ⟨?_, ?_⟩⟩
  · have hlist := pairwise_list hsound p
    refine ⟨_, _, eq_append_of_precedes hlist, nodup_list hsound p, pairwise_ofKind hlist false,
      pairwise_ofKind hlist true, fun e => ?_, fun e => ?_⟩
    · simp only [mem_ofKind_list h, shownBy_and_isDirectory_iff]
    · simp only [mem_ofKind_list h, shownBy_and_isFile_iff]
  · exact (List.perm_ext_iff_of_nodup ((nodup_listings files).filter _) (nodup_leaves h)).mpr
      fun e => mem_leaves_iff h
  · rw [Bool.eq_iff_iff, has_ofFiles, has_ofFiles]
    simp only [hperm.mem_iff]
  · have hother : other.Pairwise IsApartFrom := (hperm.pairwise_iff IsApartFrom.symm).mp h
    refine list_eq_of_mem_iff (sound_ofFiles other).1 hsound fun e => ?_
    rw [mem_list_of_apart hother, mem_list_of_apart h]
    simp only [hperm.mem_iff]

/-- Files written in several ways, one of them without a name, and added in the other order. -/
theorem list_ofFiles_of_untidy :
    let files := [("src//web/\\api.go ", Json.text "v1"), (" /README.md/", .null), ("//", .null),
      ("src/main.go", .text "main"), ("/src/docs/ a", .null)]
    files.Pairwise IsApartFrom ∧ (ofFiles files).has "src/web" = true ∧
      .directory "web" "src/web" ∈ (ofFiles files.reverse).list "src" := by
  intro files
  have h : files.Pairwise IsApartFrom := by decide
  have hnames : namesOf "src//web/\\api.go " =
      ["src".toList] ++ "web".toList :: ["api.go".toList] := by
    decide
  obtain ⟨hhas, hlist, -, horder⟩ := list_ofFiles files h
  obtain ⟨directories, leaves, hparts, -, -, -, hdirectories, -⟩ := hlist "src"
  refine ⟨h, (hhas _).mpr (Or.inr ⟨_, List.mem_cons_self, ?_⟩), ?_⟩
  · exact ⟨["src".toList, "web".toList], ["api.go".toList], by simp, by simp, by simp [hnames],
      by decide⟩
  · rw [(horder _ (List.reverse_perm files).symm "src").2, hparts]
    refine List.mem_append_left _ ((hdirectories _).mpr ⟨_, List.mem_cons_self, ?_⟩)
    exact ⟨_, _, _, _, hnames, by decide, rfl⟩

end CallAtlas.Browser
