import CallAtlas.Proofs.Browser.Entries
import Mathlib.Data.List.Induction

/-! The directory tree of a list of files. Every directory on the way to a file is known, and there
is an entry for every name on the way; which one is decided by the last file that has the name in
that place. So a directory is missing from the listing above it exactly if a file of the same path
was added after all files below it. -/
namespace CallAtlas.Browser

open CallAtlas.Path

variable {files : List (String × Json)} {f g : String × Json} {p : String} {e x : Entry}

def ShownBy (f : String × Json) (p : String) (e : Entry) : Prop :=
  Shows f.2 [] (namesOf f.1) p e

theorem shownBy_iff : ShownBy f p e ↔
    ∃ above name below, namesOf f.1 = above ++ name :: below ∧ p = pathOf above ∧
      e = entryAt f.2 above name below := by
  simp only [ShownBy, Shows, List.nil_append]

theorem isName_above {above below : List (List Char)} (h : namesOf f.1 = above ++ below) :
    ∀ s ∈ above, IsName s := fun s hs =>
  isName_of_mem_namesOf s (h ▸ List.mem_append_left below hs)

theorem isName_place {above below : List (List Char)} {name : List Char}
    (h : namesOf f.1 = above ++ name :: below) : ∀ s ∈ above ++ [name], IsName s :=
  isName_above (h.trans (List.append_cons above name below))

theorem names_eq {above below above' below' : List (List Char)} {name name' : List Char}
    (hf : namesOf f.1 = above ++ name :: below) (hg : namesOf g.1 = above' ++ name' :: below')
    (hpath : pathOf above = pathOf above') (hname : String.ofList name = String.ofList name') :
    above = above' ∧ name = name' :=
  ⟨(pathOf_inj (isName_above hf) (isName_above hg)).mp hpath, String.ofList_inj.mp hname⟩

@[simp] theorem ofFiles_concat (files : List (String × Json)) (f : String × Json) :
    ofFiles (files ++ [f]) = (ofFiles files).add f.1 f.2 := by
  simp [ofFiles]

theorem sound_ofFiles (files : List (String × Json)) :
    (ofFiles files).Sound ∧ (ofFiles files).has "" = true := by
  induction files using List.reverseRecOn with
  | nil => exact ⟨sound_empty, rfl⟩
  | append_singleton files f ih =>
    have hadds := adds_add ih.1 ih.2 f.1 f.2
    rw [ofFiles_concat]
    exact ⟨hadds.sound, (hadds.has "").mpr (Or.inl ih.2)⟩

theorem adds_concat (files : List (String × Json)) (f : String × Json) :
    Adds (ofFiles files) (ofFiles (files ++ [f])) (ShownBy f) := by
  rw [ofFiles_concat]
  exact adds_add (sound_ofFiles files).1 (sound_ofFiles files).2 f.1 f.2

theorem has_ofFiles :
    (ofFiles files).has p = true ↔ p = "" ∨ ∃ f ∈ files, ∃ e, ShownBy f p e := by
  induction files using List.reverseRecOn with
  | nil => simp [ofFiles, empty, has, @eq_comm _ ""]
  | append_singleton files f ih =>
    rw [(adds_concat files f).has, ih]
    simp only [List.mem_append, List.mem_singleton, or_and_right, exists_or, exists_eq_left,
      or_assoc]

/-- The last file that shows an entry of a name decides which one is there. -/
theorem mem_entries_ofFiles :
    e ∈ (ofFiles files).entries p ↔
      ∃ before f after, files = before ++ f :: after ∧ ShownBy f p e ∧
        ∀ g ∈ after, ∀ x, ShownBy g p x → x.name ≠ e.name := by
  induction files using List.reverseRecOn with
  | nil => by_cases h : "" = p <;> simp [ofFiles, empty, entries, h]
  | append_singleton files f ih =>
    rw [(adds_concat files f).mem, ih]
    constructor
    · rintro (he | ⟨⟨before, g, after, rfl, he, hafter⟩, hf⟩)
      · exact ⟨files, f, [], rfl, he, by simp⟩
      · refine ⟨before, g, after ++ [f], by simp, he, fun h hh => ?_⟩
        rcases List.mem_append.mp hh with hh | hh
        · exact hafter h hh
        · exact List.mem_singleton.mp hh ▸ hf
    · rintro ⟨before, g, after, hsplit, he, hafter⟩
      rcases after.eq_nil_or_concat' with rfl | ⟨after, h, rfl⟩
      · obtain ⟨-, hlast⟩ := List.append_inj' hsplit rfl
        exact Or.inl (List.singleton_inj.mp hlast ▸ he)
      · have hsplit' : files ++ [f] = (before ++ g :: after) ++ [h] := by simpa using hsplit
        obtain ⟨hfiles, hlast⟩ := List.append_inj' hsplit' rfl
        obtain rfl := List.singleton_inj.mp hlast
        refine Or.inr ⟨⟨before, g, after, hfiles, he, fun k hk => ?_⟩, ?_⟩
        · exact hafter k (List.mem_append_left _ hk)
        · exact hafter f (by simp)

theorem has_ofFiles_iff :
    (ofFiles files).has p = true ↔ p = "" ∨
      ∃ f ∈ files, ∃ above below, above ≠ [] ∧ below ≠ [] ∧ namesOf f.1 = above ++ below ∧
        p = pathOf above := by
  rw [has_ofFiles]
  constructor
  · rintro (hp | ⟨f, hf, e, he⟩)
    · exact Or.inl hp
    · obtain ⟨above, name, below, hnames, hp, -⟩ := shownBy_iff.mp he
      by_cases habove : above = []
      · exact Or.inl (by simp [hp, habove, pathOf, join])
      · exact Or.inr ⟨f, hf, above, name :: below, habove, by simp, hnames, hp⟩
  · rintro (hp | ⟨f, hf, above, below, -, hbelow, hnames, hp⟩)
    · exact Or.inl hp
    · obtain ⟨name, rest, rfl⟩ := List.exists_cons_of_ne_nil hbelow
      exact Or.inr ⟨f, hf, _, shownBy_iff.mpr ⟨above, name, rest, hnames, hp, rfl⟩⟩

section Place

variable {above : List (List Char)} {name : List Char}

theorem shownBy_iff_of_name (hplace : ∀ s ∈ above ++ [name], IsName s)
    (hname : e.name = String.ofList name) :
    ShownBy f (pathOf above) e ↔
      ∃ below, namesOf f.1 = above ++ name :: below ∧ e = entryAt f.2 above name below := by
  rw [shownBy_iff]
  constructor
  · rintro ⟨above', name', below, hnames, hp, rfl⟩
    have habove : above = above' := (pathOf_inj (by simp_all) (isName_above hnames)).mp hp
    have hname' : name' = name := by simpa [String.ofList_inj] using hname
    exact ⟨below, by simp [hnames, habove, hname'], by rw [habove, hname']⟩
  · rintro ⟨below, hnames, rfl⟩
    exact ⟨above, name, below, hnames, rfl, rfl⟩

theorem shownBy_directory_iff (hplace : ∀ s ∈ above ++ [name], IsName s) :
    ShownBy f (pathOf above) (.directory (String.ofList name) (pathOf (above ++ [name]))) ↔
      ∃ next below, namesOf f.1 = above ++ name :: next :: below := by
  rw [shownBy_iff_of_name hplace rfl]
  constructor
  · rintro ⟨_ | ⟨next, below⟩, hnames, he⟩
    · cases he
    · exact ⟨next, below, hnames⟩
  · rintro ⟨next, below, hnames⟩
    exact ⟨next :: below, hnames, rfl⟩

theorem shownBy_file_iff (hplace : ∀ s ∈ above ++ [name], IsName s) {package : Json} :
    ShownBy f (pathOf above) (.file (String.ofList name) (pathOf (above ++ [name])) package) ↔
      namesOf f.1 = above ++ [name] ∧ f.2 = package := by
  rw [shownBy_iff_of_name hplace rfl]
  constructor
  · rintro ⟨_ | ⟨next, below⟩, hnames, he⟩
    · exact ⟨hnames, by cases he; rfl⟩
    · cases he
  · rintro ⟨hnames, rfl⟩
    exact ⟨[], hnames, rfl⟩

theorem exists_shownBy_iff (hplace : ∀ s ∈ above ++ [name], IsName s) :
    (∃ x, ShownBy f (pathOf above) x ∧ x.name = String.ofList name) ↔
      above ++ [name] <+: namesOf f.1 := by
  constructor
  · rintro ⟨x, hx, hname⟩
    obtain ⟨below, hnames, -⟩ := (shownBy_iff_of_name hplace hname).mp hx
    exact ⟨below, by simp [hnames]⟩
  · rintro ⟨below, hnames⟩
    have hx := (shownBy_iff_of_name hplace (name_entryAt f.2 above name below)).mpr
      ⟨below, by simp [← hnames], rfl⟩
    exact ⟨_, hx, name_entryAt ..⟩

/-- An entry is listed if a file shows it and no later file has its place on the way. -/
theorem mem_list_iff (hplace : ∀ s ∈ above ++ [name], IsName s)
    (hname : e.name = String.ofList name) :
    e ∈ (ofFiles files).list (pathOf above) ↔
      ∃ before f after, files = before ++ f :: after ∧ ShownBy f (pathOf above) e ∧
        ∀ g ∈ after, ¬above ++ [name] <+: namesOf g.1 := by
  simp only [mem_list, mem_entries_ofFiles, hname, ← exists_shownBy_iff hplace, not_exists, not_and]

theorem exists_last_through {place : List (List Char)} (hf : f ∈ files)
    (h : place <+: namesOf f.1) :
    ∃ before g after, files = before ++ g :: after ∧ place <+: namesOf g.1 ∧
      ∀ h ∈ after, ¬place <+: namesOf h.1 := by
  have hmem : true ∈ files.map fun f => decide (place <+: namesOf f.1) :=
    List.mem_map.mpr ⟨f, hf, by simpa using h⟩
  simpa using Keys.exists_last hmem

/-- A directory is listed unless a file of its path comes after all files below it. -/
theorem directory_mem_list_iff (hplace : ∀ s ∈ above ++ [name], IsName s) :
    .directory (String.ofList name) (pathOf (above ++ [name])) ∈
        (ofFiles files).list (pathOf above) ↔
      ∃ before f after, files = before ++ f :: after ∧
        (∃ next below, namesOf f.1 = above ++ name :: next :: below) ∧
        ∀ g ∈ after, namesOf g.1 ≠ above ++ [name] := by
  rw [mem_list_iff hplace rfl]
  simp only [shownBy_directory_iff hplace]
  constructor
  · rintro ⟨before, f, after, hsplit, hdeep, hafter⟩
    exact ⟨before, f, after, hsplit, hdeep, fun g hg hnames => hafter g hg ⟨[], by simp [hnames]⟩⟩
  · rintro ⟨before, f, after, rfl, ⟨next, below, hdeep⟩, hafter⟩
    have hthrough : above ++ [name] <+: namesOf f.1 := ⟨next :: below, by simp [hdeep]⟩
    obtain ⟨middle, g, rest, hsplit, ⟨tail, hnames⟩, hrest⟩ :=
      exists_last_through (List.mem_cons_self (l := after)) hthrough
    -- The last file through the place has names below it, as the first of those files has.
    have hgdeep : ∃ next below, namesOf g.1 = above ++ name :: next :: below := by
      cases tail with
      | cons next below => exact ⟨next, below, by simp [← hnames]⟩
      | nil =>
        have hg : g ∈ f :: after := by simp [hsplit]
        rcases List.mem_cons.mp hg with rfl | hg
        · exact ⟨next, below, hdeep⟩
        · exact absurd (by simpa using hnames.symm) (hafter g hg)
    exact ⟨before ++ middle, g, rest, by simp [hsplit], hgdeep, hrest⟩

theorem file_mem_list_iff (hplace : ∀ s ∈ above ++ [name], IsName s) {package : Json} :
    .file (String.ofList name) (pathOf (above ++ [name])) package ∈
        (ofFiles files).list (pathOf above) ↔
      ∃ before f after, files = before ++ f :: after ∧
        (namesOf f.1 = above ++ [name] ∧ f.2 = package) ∧
        ∀ g ∈ after, ¬above ++ [name] <+: namesOf g.1 := by
  rw [mem_list_iff hplace rfl]
  simp only [shownBy_file_iff hplace]

theorem exists_mem_list (hf : f ∈ files) (h : above ++ [name] <+: namesOf f.1) :
    ∃ e ∈ (ofFiles files).list (pathOf above), e.name = String.ofList name ∧
      e.path = pathOf (above ++ [name]) := by
  obtain ⟨before, g, after, hsplit, ⟨below, hnames⟩, hafter⟩ := exists_last_through hf h
  have hplace : ∀ s ∈ above ++ [name], IsName s := isName_above hnames.symm
  have hname := name_entryAt g.2 above name below
  refine ⟨_, (mem_list_iff hplace hname).mpr ⟨before, g, after, hsplit, ?_, hafter⟩, hname,
    path_entryAt ..⟩
  exact (shownBy_iff_of_name hplace hname).mpr ⟨below, by simp [← hnames], rfl⟩

end Place

/-- No path on the way to a file is missing from the directory above it: it is listed there, as a
directory unless a file of that path was added after all files below it, and a file as a file
unless one added later has its path, or a path below. -/
theorem listed_unless_overwritten (files : List (String × Json)) :
    let b := ofFiles files
    (∀ p, b.has p = true ↔ p = "" ∨
      ∃ f ∈ files, ∃ above below, above ≠ [] ∧ below ≠ [] ∧ namesOf f.1 = above ++ below ∧
        p = pathOf above) ∧
    ∀ f ∈ files, ∀ above name below, namesOf f.1 = above ++ name :: below →
      let parent := pathOf above
      let path := pathOf (above ++ [name])
      b.has parent = true ∧
      (∃ e ∈ b.list parent, e.name = String.ofList name ∧ e.path = path) ∧
      (.directory (String.ofList name) path ∈ b.list parent ↔
        ∃ before g after, files = before ++ g :: after ∧
          (∃ next below, namesOf g.1 = above ++ name :: next :: below) ∧
          ∀ h ∈ after, namesOf h.1 ≠ above ++ [name]) ∧
      ∀ package, .file (String.ofList name) path package ∈ b.list parent ↔
        ∃ before g after, files = before ++ g :: after ∧
          (namesOf g.1 = above ++ [name] ∧ g.2 = package) ∧
          ∀ h ∈ after, ¬above ++ [name] <+: namesOf h.1 := by
  refine ⟨fun p => has_ofFiles_iff, fun f hf above name below hnames => ?_⟩
  have hplace : ∀ s ∈ above ++ [name], IsName s := isName_place hnames
  have hthrough : above ++ [name] <+: namesOf f.1 := ⟨below, by simp [hnames]⟩
  have hshown := shownBy_iff.mpr ⟨above, name, below, hnames, rfl, rfl⟩
  exact ⟨has_ofFiles.mpr (Or.inr ⟨f, hf, _, hshown⟩), exists_mem_list hf hthrough,
    directory_mem_list_iff hplace, fun package => file_mem_list_iff hplace⟩

/-- A directory that a file of the same path has taken the place of is known, but not listed. -/
theorem directory_missing_below_file :
    let b := ofFiles [("a/b", .null), ("a", .null)]
    ¬∀ above name, (∀ s ∈ above ++ [name], IsName s) → b.has (pathOf (above ++ [name])) = true →
      .directory (String.ofList name) (pathOf (above ++ [name])) ∈ b.list (pathOf above) := by
  intro b h
  have hlisted := h [] ['a'] (by simp [IsName]) (by decide)
  have hfiles : ∀ e ∈ b.list (pathOf []), e.isFile = true := by decide +kernel
  exact absurd (hfiles _ hlisted) (by decide)

end CallAtlas.Browser
