import CallAtlas.Proofs.Browser.Tree
import CallAtlas.Proofs.Path.Trimming
import CallAtlas.Proofs.Store.Listing
import CallAtlas.Store.Statement

/-! Going down the directory tree of a store by the paths that it lists. A path is trimmed when it
is asked for, so a directory is found again if no blank is at the ends of its path, and otherwise
the request means another one. -/
namespace CallAtlas.Browser

open CallAtlas.Path

variable {files : List (String × Json)} {f : String × Json} {p : String} {e : Entry}

theorem backslash_not_mem_of_mem_namesOf {file : String} {s : List Char} (hs : s ∈ namesOf file) :
    '\\' ∉ s := by
  intro hback
  have hmem := (mem_of_mem_segments (List.mem_filter.mp hs).1 hback).1
  rw [normalizeBrowse, String.toList_ofList] at hmem
  exact backslash_not_mem_forward _ ((Text.strip_sublist _ _).mem hmem)

theorem normalizeBrowse_pathOf_iff {above below : List (List Char)}
    (h : namesOf f.1 = above ++ below) :
    normalizeBrowse (pathOf above) = pathOf above ↔ IsTrimmed (pathOf above) := by
  refine ⟨isTrimmed_of_normalizeBrowse, normalizeBrowse_join (isName_above h) fun s hs => ?_⟩
  exact backslash_not_mem_of_mem_namesOf (h ▸ List.mem_append_left below hs)

theorem ShownBy.path_eq (h : ShownBy f p e) : e.path = child p e.name := by
  obtain ⟨above, name, below, hnames, rfl, rfl⟩ := shownBy_iff.mp h
  rw [path_entryAt, name_entryAt, child_pathOf (isName_above hnames)]

theorem exists_shownBy_of_mem_list (h : e ∈ (ofFiles files).list p) :
    ∃ f ∈ files, ShownBy f p e := by
  obtain ⟨before, f, after, rfl, hf, -⟩ := mem_entries_ofFiles.mp (mem_list.mp h)
  exact ⟨f, by simp, hf⟩

theorem exists_mem_list_iff {name : String} :
    (∃ e ∈ (ofFiles files).list p, e.name = name) ↔
      ∃ f ∈ files, ∃ x, ShownBy f p x ∧ x.name = name := by
  constructor
  · rintro ⟨e, he, rfl⟩
    obtain ⟨f, hf, hshown⟩ := exists_shownBy_of_mem_list he
    exact ⟨f, hf, e, hshown, rfl⟩
  · rintro ⟨f, hf, x, hx, rfl⟩
    obtain ⟨above, name, below, hnames, rfl, rfl⟩ := shownBy_iff.mp hx
    have hthrough : above ++ [name] <+: namesOf f.1 := ⟨below, by simp [hnames]⟩
    obtain ⟨e, he, hname, -⟩ := exists_mem_list hf hthrough
    exact ⟨e, he, by rw [hname, name_entryAt]⟩

theorem of_directory_mem_list {name path : String}
    (h : .directory name path ∈ (ofFiles files).list p) :
    (ofFiles files).has path = true ∧ (ofFiles files).list path ≠ [] ∧
      (normalizeBrowse path = path ↔ IsTrimmed path) := by
  obtain ⟨f, hf, hshown⟩ := exists_shownBy_of_mem_list h
  obtain ⟨above, name, next, below, hnames, -, he⟩ :=
    shownBy_and_isDirectory_iff.mp ⟨hshown, rfl⟩
  obtain ⟨rfl, rfl⟩ := Entry.directory.inj he
  have hnames' : namesOf f.1 = (above ++ [name]) ++ next :: below := by simp [hnames]
  have hinside : ShownBy f (pathOf (above ++ [name])) (entryAt f.2 (above ++ [name]) next below) :=
    shownBy_iff.mpr ⟨_, _, _, hnames', rfl, rfl⟩
  obtain ⟨e, he, -⟩ := exists_mem_list_iff.mpr ⟨f, hf, _, hinside, rfl⟩
  exact ⟨has_ofFiles.mpr (Or.inr ⟨f, hf, _, hinside⟩), List.ne_nil_of_mem he,
    normalizeBrowse_pathOf_iff hnames'⟩

end CallAtlas.Browser

namespace CallAtlas.Service

open Store CallAtlas.Path Browser

theorem listed_root (stored : List (Json × Json)) :
    listed (treeOf stored) "" = .ok (listing (treeOf stored) "") :=
  listed_eq_ok_iff.mpr ⟨(sound_ofFiles _).2, rfl⟩

/-- A directory that was listed can be listed, if its path is trimmed: the answer is for the same
path, and has an entry for each name below. Otherwise no answer is for that path. -/
theorem listDirectory_of_listed [Engine] (source : Source) (path answer : Json)
    (cache cache' : Cache) (hcache : cache.Faithful source)
    (h : (listDirectory path).run source cache = (.ok answer, cache')) :
    cache'.Faithful source ∧
    ∃ stored directory, Sources.list.fresh source = .ok stored ∧
      answer = listing (treeOf stored) directory ∧
      ∀ name p, .directory name p ∈ (treeOf stored).list directory →
        ∀ later : Cache, later.Faithful source →
          let again := ((listDirectory (.text p)).run source later).1
          (IsTrimmed p → again = .ok (listing (treeOf stored) p) ∧
            (treeOf stored).list p ≠ [] ∧
            (∀ e ∈ (treeOf stored).list p, e.path = child p e.name) ∧
            ∀ n, (∃ e ∈ (treeOf stored).list p, e.name = n) ↔
              ∃ f ∈ stored, ∃ x, ShownBy (treeFile f) p x ∧ x.name = n) ∧
          (¬IsTrimmed p → ∀ answer', again = .ok answer' →
            ∃ other, other ≠ p ∧ answer' = listing (treeOf stored) other) := by
  obtain ⟨hresult, hfaithful⟩ := steady_listDirectory path cache hcache
  rw [h] at hresult hfaithful
  obtain ⟨directory, b, -, hbrowser, -, hanswer⟩ := exists_of_fresh_listDirectory hresult.symm
  obtain ⟨stored, hstored, -, rfl⟩ := fresh_browser_eq_ok_iff.mp hbrowser
  refine ⟨hfaithful, stored, directory, hstored, hanswer, fun name p hp later hlater => ?_⟩
  obtain ⟨hhas, hne, hself⟩ := of_directory_mem_list hp
  obtain ⟨_, -, hagain⟩ := run_listDirectory hbrowser p hlater
  dsimp only
  rw [hagain]
  refine ⟨fun htrimmed => ⟨?_, hne, fun e he => ?_, fun n => ?_⟩, fun hblank answer' h => ?_⟩
  · rw [hself.mpr htrimmed]
    exact listed_eq_ok_iff.mpr ⟨hhas, rfl⟩
  · obtain ⟨f, -, hf⟩ := exists_shownBy_of_mem_list he
    exact hf.path_eq
  · rw [treeOf, exists_mem_list_iff]
    simp only [List.mem_map, exists_exists_and_eq_and]
  · exact ⟨_, fun hp => hblank (hself.mp hp), (listed_eq_ok_iff.mp h).2⟩

def storeOf (path : String) : Source where
  path := "files.db"
  backing := .tables {
    tables := [("sources", ⟨[{ name := "file" }, { name := "package" }],
      [[.text path, .text "main"]]⟩)]
    hasDetailView := false }

theorem fresh_list_storeOf {path : String} (h : path ∈ ["src/main.go", "a /b.go"]) :
    Sources.list.fresh (storeOf path) = .ok [(.text path, .text "main")] := by
  have hrequire : ∀ path ∈ ["src/main.go", "a /b.go"],
      (Table.require ⟨[{ name := "file" }, { name := "package" }],
        [[.text path, .text "main"]]⟩ ["file", "package"]).toOption = some () := by
    decide +kernel
  have hcells : ∀ path ∈ ["src/main.go", "a /b.go"], (sortBy ["file"] (Table.named
        ⟨[{ name := "file" }, { name := "package" }], [[.text path, .text "main"]]⟩)).map
          (fun row => (Row.get row "file", Row.get row "package")) =
        [(.text path, .text "main")] := by
    decide +kernel
  exact Sources.fresh_list rfl rfl (eq_ok_of_toOption (hrequire path h)) (hcells path h)

theorem fresh_browser_storeOf {path : String} (h : path ∈ ["src/main.go", "a /b.go"]) :
    browser.fresh (storeOf path) = .ok (treeOf [(.text path, .text "main")]) := by
  refine fresh_browser_eq_ok_iff.mpr ⟨_, fresh_list_storeOf h, fun f hf => ?_, rfl⟩
  obtain rfl := List.mem_singleton.mp hf
  rfl

theorem mem_list_storeOf {path : String} {name file : List Char}
    (h : namesOf path = [name, file]) :
    .directory (String.ofList name) (String.ofList name) ∈
      (treeOf [(.text path, .text "main")]).list "" := by
  have hplace : ∀ s ∈ [] ++ [name], IsName s := fun s hs =>
    isName_of_mem_namesOf s (h ▸ List.mem_cons.mpr (Or.inl (List.mem_singleton.mp hs)))
  exact (directory_mem_list_iff hplace).mpr ⟨[], _, [], rfl, ⟨file, [], h⟩, by simp⟩

theorem listDirectory_of_listed_src :
    let tree := treeOf [(.text "src/main.go", .text "main")]
    ∃ cache', (listDirectory (.text " /")).run (storeOf "src/main.go") {} =
        (.ok (listing tree ""), cache') ∧ .directory "src" "src" ∈ tree.list "" ∧
      ((listDirectory (.text "src")).run (storeOf "src/main.go") cache').1 =
        .ok (listing tree "src") := by
  intro tree
  have hnames : namesOf "src/main.go" = ["src".toList, "main.go".toList] := by decide
  have hmem : .directory "src" "src" ∈ tree.list "" := mem_list_storeOf hnames
  have hroot : normalizeBrowse " /" = "" := by decide
  have htree : browser.fresh (storeOf "src/main.go") = .ok tree := fresh_browser_storeOf (by simp)
  obtain ⟨cache', hcache', hrun⟩ := run_listDirectory htree " /" (.empty _)
  rw [hroot, listed_root] at hrun
  obtain ⟨-, stored, directory, hstored, hanswer, hagain⟩ :=
    listDirectory_of_listed _ _ _ _ _ (.empty _) hrun
  obtain rfl := Except.ok.inj ((fresh_list_storeOf (by simp)).symm.trans hstored)
  obtain rfl := listing_inj hanswer
  exact ⟨cache', hrun, hmem, ((hagain _ _ hmem cache' hcache').1 (by decide)).1⟩

theorem directory_with_blank_not_found :
    let tree := treeOf [(.text "a /b.go", .text "main")]
    ∃ cache', (listDirectory (.text "")).run (storeOf "a /b.go") {} =
        (.ok (listing tree ""), cache') ∧ .directory "a " "a " ∈ tree.list "" ∧
      ((listDirectory (.text "a ")).run (storeOf "a /b.go") cache').1 =
        .error (.directoryNotFound "a") := by
  intro tree
  have hnames : namesOf "a /b.go" = ["a ".toList, "b.go".toList] := by decide
  have hmem : .directory "a " "a " ∈ tree.list "" := mem_list_storeOf hnames
  have hroot : normalizeBrowse "" = "" := by decide
  have hasked : normalizeBrowse "a " = "a" := by decide
  have hunknown : tree.has "a" = false := by decide
  have htree : browser.fresh (storeOf "a /b.go") = .ok tree := fresh_browser_storeOf (by simp)
  obtain ⟨cache', hcache', hrun⟩ := run_listDirectory htree "" (.empty _)
  rw [hroot, listed_root] at hrun
  obtain ⟨_, -, hnext⟩ := run_listDirectory htree "a " hcache'
  refine ⟨cache', hrun, hmem, ?_⟩
  rw [hnext, hasked, listed, hunknown]
  rfl

end CallAtlas.Service
