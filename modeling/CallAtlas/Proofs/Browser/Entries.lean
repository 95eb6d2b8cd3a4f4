import CallAtlas.Browser
import CallAtlas.Proofs.Keys
import CallAtlas.Proofs.Path.Segments

/-! The entries of a directory tree to which files are added. A file is shown in the directories
above it, and what it shows takes the place of earlier entries of the same names. So an entry is in
the tree if a file shows it and no file added after that one shows another of its name. -/
namespace CallAtlas.Browser

open CallAtlas.Path

variable {b : Browser} {p directory : String} {e x : Entry}

theorem names_put (e : Entry) (es : List Entry) :
    (put e es).map Entry.name = Keys.insert e.name (es.map Entry.name) := by
  refine Keys.map_key_eq_insert rfl (fun x xs => ?_) es
  by_cases h : x.name = e.name <;> simp [put, h]

theorem mem_put {es : List Entry} (h : (es.map Entry.name).Nodup) :
    x ∈ put e es ↔ x = e ∨ x ∈ es ∧ x.name ≠ e.name := by
  induction es with
  | nil => simp [put]
  | cons y ys ih =>
    obtain ⟨hy, hys⟩ := List.nodup_cons.mp h
    by_cases hname : y.name = e.name
    · have hrest : ∀ x ∈ ys, x.name ≠ e.name := fun x hx hxe =>
        hy (List.mem_map.mpr ⟨x, hx, hxe.trans hname.symm⟩)
      simp only [put, hname, ↓reduceIte, List.mem_cons]
      constructor
      · exact Or.imp_right fun hx => ⟨Or.inr hx, hrest x hx⟩
      · rintro (hx | ⟨rfl | hx, hne⟩)
        · exact Or.inl hx
        · exact absurd hname hne
        · exact Or.inr hx
    · simp only [put, hname, ↓reduceIte, List.mem_cons, ih hys]
      constructor
      · rintro (rfl | hx | ⟨hx, hne⟩)
        · exact Or.inr ⟨Or.inl rfl, hname⟩
        · exact Or.inl hx
        · exact Or.inr ⟨Or.inr hx, hne⟩
      · rintro (hx | ⟨rfl | hx, hne⟩)
        · exact Or.inr (Or.inl hx)
        · exact Or.inl rfl
        · exact Or.inr (Or.inr ⟨hx, hne⟩)

def paths (b : Browser) : List String :=
  b.directories.map (·.1)

theorem has_iff : b.has p = true ↔ p ∈ b.paths := by
  simp [has, paths]

theorem paths_know (b : Browser) (p : String) : (b.know p).paths = Keys.insert p b.paths := by
  unfold know Keys.insert
  by_cases h : b.has p = true
  · rw [if_pos h, if_pos (has_iff.mp h)]
  · rw [if_neg h, if_neg (fun hp => h (has_iff.mpr hp))]
    simp [paths]

@[simp] theorem paths_enter (b : Browser) (directory : String) (e : Entry) :
    (b.enter directory e).paths = b.paths := by
  simp only [paths, enter, List.map_map]
  refine List.map_congr_left fun d _ => ?_
  by_cases h : d.1 = directory <;> simp [h]

@[simp] theorem has_know {q : String} : (b.know q).has p = true ↔ b.has p = true ∨ p = q := by
  rw [has_iff, paths_know, Keys.mem_insert, has_iff]

@[simp] theorem has_enter : (b.enter directory e).has p = true ↔ b.has p = true := by
  rw [has_iff, paths_enter, has_iff]

@[simp] theorem entries_know (b : Browser) (q p : String) : (b.know q).entries p = b.entries p := by
  unfold know
  split
  · rfl
  · unfold entries
    rw [List.find?_append]
    cases h : b.directories.find? (·.1 == p) with
    | some d => rfl
    | none => by_cases hq : q = p <;> simp [hq]

theorem entries_enter (b : Browser) (directory : String) (e : Entry) (p : String) :
    (b.enter directory e).entries p =
      if p = directory ∧ b.has p = true then put e (b.entries p) else b.entries p := by
  have hkept : ((fun d : String × List Entry => d.1 == p) ∘ fun d : String × List Entry =>
      if d.1 = directory then (d.1, put e d.2) else (d.1, d.2)) = fun d => d.1 == p := by
    funext d
    by_cases h : d.1 = directory <;> simp [h]
  have hhas : b.has p = (b.directories.find? (·.1 == p)).isSome := by
    rw [Bool.eq_iff_iff]
    simp [has]
  unfold entries enter
  rw [List.find?_map, hkept, hhas]
  cases h : b.directories.find? (·.1 == p) with
  | none => simp
  | some d =>
    have hd : d.1 = p := by simpa using List.find?_some h
    by_cases hp : p = directory <;> simp [hd, hp]

structure Sound (b : Browser) : Prop where
  paths : b.paths.Nodup
  names : ∀ p, ((b.entries p).map Entry.name).Nodup

theorem sound_empty : empty.Sound where
  paths := by simp [Browser.paths, empty]
  names p := by by_cases h : "" = p <;> simp [entries, empty, h]

theorem Sound.know (h : b.Sound) (p : String) : (b.know p).Sound where
  paths := by
    rw [paths_know]
    exact Keys.nodup_insert h.paths p
  names q := by simpa using h.names q

theorem Sound.enter (h : b.Sound) (directory : String) (e : Entry) :
    (b.enter directory e).Sound where
  paths := by simpa using h.paths
  names p := by
    rw [entries_enter]
    split
    · rw [names_put]
      exact Keys.nodup_insert (h.names p) e.name
    · exact h.names p

theorem mem_entries_enter (h : b.Sound) (hhas : b.has directory = true) :
    x ∈ (b.enter directory e).entries p ↔
      p = directory ∧ x = e ∨ x ∈ b.entries p ∧ (p = directory → x.name ≠ e.name) := by
  rw [entries_enter]
  by_cases hp : p = directory
  · subst hp
    simp [hhas, mem_put (h.names p)]
  · simp [hp]

theorem mem_list : x ∈ b.list p ↔ x ∈ b.entries p := by
  rw [list, List.mem_mergeSort]

/-- The path of a directory or a file, by the names on the way to it. -/
def pathOf (names : List (List Char)) : String :=
  String.ofList (join names)

/-- What a file shows where its names go through `name`: a directory if there are names below. -/
def entryAt (package : Json) (above : List (List Char)) (name : List Char) :
    List (List Char) → Entry
  | [] => .file (String.ofList name) (pathOf (above ++ [name])) package
  | _ :: _ => .directory (String.ofList name) (pathOf (above ++ [name]))

/-- An entry that a file shows in a directory, `base` being the names before its own. -/
def Shows (package : Json) (base names : List (List Char)) (p : String) (e : Entry) : Prop :=
  ∃ above name below, names = above ++ name :: below ∧ p = pathOf (base ++ above) ∧
    e = entryAt package (base ++ above) name below

section Shows

variable {package : Json} {base names below : List (List Char)} {name : List Char}

@[simp] theorem name_entryAt (package : Json) (above : List (List Char)) (name : List Char)
    (below : List (List Char)) : (entryAt package above name below).name = String.ofList name := by
  cases below <;> rfl

@[simp] theorem path_entryAt (package : Json) (above : List (List Char)) (name : List Char)
    (below : List (List Char)) :
    (entryAt package above name below).path = pathOf (above ++ [name]) := by
  cases below <;> rfl

theorem pathOf_inj {ss ts : List (List Char)} (hss : ∀ s ∈ ss, IsName s)
    (hts : ∀ t ∈ ts, IsName t) :
    pathOf ss = pathOf ts ↔ ss = ts := by
  rw [pathOf, pathOf, String.ofList_inj, join_inj hss hts]

theorem child_pathOf (h : ∀ s ∈ base, IsName s) (name : List Char) :
    child (pathOf base) (String.ofList name) = pathOf (base ++ [name]) := by
  unfold child pathOf
  by_cases hbase : base = []
  · simp [hbase, join]
  · have hjoin : join base ≠ [] := (join_eq_nil_iff h).not.mpr hbase
    rw [if_neg (by simpa using hjoin), join_concat hbase]
    simp [String.ofList_append, ← String.toList_inj]

@[simp] theorem not_shows_nil : ¬Shows package base [] p e := by
  rintro ⟨above, name, below, h, -⟩
  simp at h

theorem shows_cons : Shows package base (name :: below) p e ↔
    p = pathOf base ∧ e = entryAt package base name below ∨
      Shows package (base ++ [name]) below p e := by
  constructor
  · rintro ⟨above, n, rest, h, hp, he⟩
    cases above with
    | nil =>
      obtain ⟨rfl, rfl⟩ := List.cons.inj h
      exact Or.inl ⟨by simpa using hp, by simpa using he⟩
    | cons m above =>
      obtain ⟨rfl, rfl⟩ := List.cons.inj h
      exact Or.inr ⟨above, n, rest, rfl, by simpa using hp, by simpa using he⟩
  · rintro (⟨hp, he⟩ | ⟨above, n, rest, rfl, hp, he⟩)
    · exact ⟨[], name, below, rfl, by simpa using hp, by simpa using he⟩
    · exact ⟨name :: above, n, rest, rfl, by simpa using hp, by simpa using he⟩

theorem Shows.path_ne (hbase : ∀ s ∈ base, IsName s) (hnames : ∀ s ∈ name :: below, IsName s)
    (h : Shows package (base ++ [name]) below p e) : p ≠ pathOf base := by
  obtain ⟨above, n, rest, rfl, rfl, -⟩ := h
  have hall : ∀ s ∈ base ++ [name] ++ above, IsName s := by
    intro s hs
    rcases List.mem_append.mp hs with hs | hs
    · rcases List.mem_append.mp hs with hs | hs
      · exact hbase s hs
      · exact hnames s (by simp_all)
    · exact hnames s (by simp [hs])
  intro heq
  have := (pathOf_inj hall hbase).mp heq
  simp at this

end Shows

/-- A tree with these entries put in, each in the place of one of its name. -/
structure Adds (b b' : Browser) (shown : String → Entry → Prop) : Prop where
  sound : b'.Sound
  has : ∀ p, b'.has p = true ↔ b.has p = true ∨ ∃ e, shown p e
  mem : ∀ p e, e ∈ b'.entries p ↔ shown p e ∨ e ∈ b.entries p ∧ ∀ x, shown p x → x.name ≠ e.name

namespace Adds

variable {b' : Browser} {shown : String → Entry → Prop}

theorem nothing (h : b.Sound) (hnone : ∀ p e, ¬shown p e) : Adds b b shown where
  sound := h
  has p := by simp [hnone]
  mem p e := by simp [hnone]

theorem of_know (h : Adds (b.know p) b' shown) (hshown : shown p e) : Adds b b' shown where
  sound := h.sound
  has q := by
    rw [h.has, has_know]
    constructor
    · rintro ((hq | rfl) | hq)
      · exact Or.inl hq
      · exact Or.inr ⟨e, hshown⟩
      · exact Or.inr hq
    · exact Or.imp_left Or.inl
  mem q x := by rw [h.mem, entries_know]

theorem of_enter (hb : b.Sound) (hhas : b.has directory = true)
    (h : Adds (b.enter directory e) b' shown) (hnone : ∀ x, ¬shown directory x) :
    Adds b b' fun p x => p = directory ∧ x = e ∨ shown p x where
  sound := h.sound
  has p := by
    rw [h.has, has_enter]
    constructor
    · exact Or.imp_right fun ⟨x, hx⟩ => ⟨x, Or.inr hx⟩
    · rintro (hp | ⟨x, ⟨rfl, -⟩ | hx⟩)
      · exact Or.inl hp
      · exact Or.inl hhas
      · exact Or.inr ⟨x, hx⟩
  mem p x := by
    rw [h.mem, mem_entries_enter hb hhas]
    by_cases hp : p = directory
    · subst hp
      simp [hnone, eq_comm]
    · simp [hp]

end Adds

theorem adds_register (package : Json) {names : List (List Char)} (hnames : ∀ s ∈ names, IsName s) :
    ∀ {base : List (List Char)} {b : Browser}, (∀ s ∈ base, IsName s) → b.Sound →
      b.has (pathOf base) = true →
      Adds b (register package (pathOf (base ++ names)) b (pathOf base) (names.map String.ofList))
        (Shows package base names) := by
  induction names with
  | nil =>
    intro base b hbase hb hhas
    exact .nothing hb fun p e => not_shows_nil
  | cons name below ih =>
    intro base b hbase hb hhas
    have hbelow : ∀ s ∈ below, IsName s := fun s hs => hnames s (List.mem_cons_of_mem name hs)
    have hbase' : ∀ s ∈ base ++ [name], IsName s := by
      simpa [or_imp, forall_and] using ⟨hbase, hnames name List.mem_cons_self⟩
    have hnone : ∀ x, ¬Shows package (base ++ [name]) below (pathOf base) x := fun x hx =>
      hx.path_ne hbase hnames rfl
    have hshows : Shows package base (name :: below) = fun p x =>
        p = pathOf base ∧ x = entryAt package base name below ∨
          Shows package (base ++ [name]) below p x := by
      funext p x
      exact propext shows_cons
    rw [hshows]
    cases below with
    | nil => exact .of_enter hb hhas (.nothing (hb.enter _ _) fun p e => not_shows_nil) hnone
    | cons next below =>
      have hdeeper := ih hbelow (b := (b.know (pathOf (base ++ [name]))).enter (pathOf base)
        (entryAt package base name (next :: below))) hbase' ((hb.know _).enter _ _)
        (by simp)
      rw [List.map_cons, List.map_cons, register, child_pathOf hbase]
      refine .of_know (.of_enter (hb.know _) (by simp [hhas]) ?_ hnone)
        (Or.inr (shows_cons.mpr (Or.inl ⟨rfl, rfl⟩)))
      simpa [entryAt] using hdeeper

theorem isName_of_mem_namesOf {file : String} : ∀ s ∈ namesOf file, IsName s := by
  intro s hs
  obtain ⟨hmem, hne⟩ := List.mem_filter.mp hs
  exact ⟨by simpa using hne, slash_not_mem_of_mem_segments hmem⟩

theorem adds_add (hb : b.Sound) (hroot : b.has "" = true) (file : String) (package : Json) :
    Adds b (b.add file package) (Shows package [] (namesOf file)) := by
  have hnames : ∀ s ∈ namesOf file, IsName s := isName_of_mem_namesOf
  unfold add
  generalize namesOf file = names at hnames ⊢
  have hbase : ∀ s ∈ ([] : List (List Char)), IsName s := by simp
  exact adds_register package hnames hbase hb hroot

end CallAtlas.Browser
