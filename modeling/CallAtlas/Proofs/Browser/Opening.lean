import CallAtlas.Proofs.Browser.Directories
import CallAtlas.Proofs.Store.Sources

/-! Opening the files that the directory tree lists. The tree shows a file by the names on the way
to it, and a request for that path is resolved among the stored ones as any other is. -/
namespace CallAtlas.Browser

open CallAtlas.Path

variable {file : String}

theorem pathOf_namesOf_sublist (file : String) :
    (pathOf (namesOf file)).toList.Sublist (normalizeBrowse file).toList := by
  have hsublist := join_filter_sublist (· ≠ []) (segments (normalizeBrowse file).toList)
  rw [join_segments] at hsublist
  rwa [pathOf, String.toList_ofList]

theorem backslash_not_mem_pathOf_namesOf (file : String) :
    '\\' ∉ (pathOf (namesOf file)).toList := by
  intro hback
  have hmem := (pathOf_namesOf_sublist file).mem hback
  rw [normalizeBrowse, String.toList_ofList] at hmem
  exact backslash_not_mem_forward _ ((Text.strip_sublist _ _).mem hmem)

theorem mem_of_mem_pathOf_namesOf {c : Char} (h : c ∈ (pathOf (namesOf file)).toList) :
    c = '/' ∨ c ∈ file.toList := by
  have hmem := (pathOf_namesOf_sublist file).mem h
  rw [normalizeBrowse, String.toList_ofList] at hmem
  obtain ⟨x, hx, hc⟩ := List.mem_map.mp ((Text.strip_sublist _ _).mem hmem)
  split at hc
  · exact Or.inl hc.symm
  · exact Or.inr (hc ▸ (Text.strip_sublist _ _).mem hx)

theorem pathOf_namesOf_ne_empty (h : namesOf file ≠ []) : pathOf (namesOf file) ≠ "" := by
  intro hempty
  have hjoin : join (namesOf file) = [] := by
    rw [← String.toList_ofList (l := join _)]
    exact congrArg String.toList hempty
  exact h ((join_eq_nil_iff isName_of_mem_namesOf).mp hjoin)

theorem isTrimmed_of_pathOf_namesOf (h : pathOf (namesOf file) = file) : IsTrimmed file := by
  have hle := (pathOf_namesOf_sublist file).length_le
  have hle' := (Text.strip_sublist isSlash (forward (Text.trim file.toList))).length_le
  rw [h, normalizeBrowse, String.toList_ofList] at hle
  rw [length_forward] at hle'
  exact (Text.strip_sublist Text.isBlank file.toList).eq_of_length_le (hle.trans hle')

end CallAtlas.Browser

namespace CallAtlas.Resolve

theorem isFirstStored_self {files : List String} {path : String} (h : path ∈ files)
    (hne : path ≠ "") : IsFirstStored files path path :=
  ⟨[], _, rfl, hne, h, by simp⟩

end CallAtlas.Resolve

namespace CallAtlas.Service

open Store CallAtlas.Path Browser Resolve

variable {t : Table} {row : Row} {asked f : String}

def opened (requested : String) (row : Row) : Json :=
  .object [("fileRequested", .text requested), ("fileResolved", (SourceFile.ofRow row).file),
    ("package", (SourceFile.ofRow row).package), ("content", (SourceFile.ofRow row).content)]

theorem file_eq_of_opened_eq {requested requested' g : String} {other : Row}
    (h : opened requested row = opened requested' other) (hrow : Row.get row "file" = .text f)
    (hother : Row.get other "file" = .text g) : f = g := by
  simp only [opened, SourceFile.ofRow, hrow, hother, Cell.toJson, Json.object.injEq,
    List.cons.injEq, Prod.mk.injEq, Json.text.injEq] at h
  exact h.2.1.2

def shelved (row : Row) : String × Json :=
  treeFile ((Row.get row "file").toJson, (Row.get row "package").toJson)

theorem exists_row_of_mem_list {name p directory : String} {package : Json} {rows : List Row}
    (h : .file name p package ∈ (ofFiles (rows.map shelved)).list directory) :
    ∃ row ∈ rows, ∃ f, Row.get row "file" = .text f ∧ namesOf f ≠ [] ∧ p = pathOf (namesOf f) ∧
      package = (Row.get row "package").toJson := by
  obtain ⟨_, hfile, hshown⟩ := exists_shownBy_of_mem_list h
  obtain ⟨row, hrow, rfl⟩ := List.mem_map.mp hfile
  obtain ⟨above, last, hnames, -, hentry⟩ := shownBy_and_isFile_iff.mp ⟨hshown, rfl⟩
  obtain ⟨-, hp, hpackage⟩ := Entry.file.inj hentry
  have hne : namesOf (shelved row).1 ≠ [] := by simp [hnames]
  cases hcell : Row.get row "file" with
  | text f =>
    have hf : (shelved row).1 = f := by simp [shelved, treeFile, hcell, Cell.toJson, Json.text?]
    rw [hf] at hp hne
    exact ⟨row, hrow, f, hcell, hne, hp, hpackage⟩
  | null | int | real =>
    -- What is no text is entered without a name.
    have hempty : (shelved row).1 = "" := by
      simp [shelved, treeFile, hcell, Cell.toJson, Json.text?]
    rw [hempty] at hne
    exact absurd (by decide) hne

theorem eq_of_pathOf_eq (hapart : (t.named.map shelved).Pairwise IsApartFrom) {other : Row}
    {g : String} (hrow : row ∈ t.named) (hother : other ∈ t.named)
    (hf : Row.get row "file" = .text f) (hg : Row.get other "file" = .text g)
    (hne : namesOf f ≠ []) (hsame : pathOf (namesOf g) = pathOf (namesOf f)) : other = row := by
  by_contra hdiffer
  have hnames := (pathOf_inj isName_of_mem_namesOf isName_of_mem_namesOf).mp hsame
  have hsymm : Std.Symm fun a b : Row => IsApartFrom (shelved a) (shelved b) :=
    ⟨fun _ _ h => h.symm⟩
  have hrows := (List.pairwise_map.mp hapart).forall hother hrow hdiffer
  have hf' : (shelved row).1 = f := by simp [shelved, treeFile, hf, Cell.toJson, Json.text?]
  have hg' : (shelved other).1 = g := by simp [shelved, treeFile, hg, Cell.toJson, Json.text?]
  rw [IsApartFrom, hf', hg', hnames] at hrows
  exact (hrows hne hne).1 (List.prefix_refl _)

section Requests

variable [Engine] {source : Source}

theorem gives_file_of_blank (settings : Settings) (h : trimmed asked = "") :
    Access.Gives source (file settings (.text asked)) (.error (.parameterRequired "file")) := by
  have hblank : Text.trim asked.toList = [] := by simpa [trimmed] using h
  have hparam : requireParam (.text asked) "file" = .error (.parameterRequired "file") := by
    simp [requireParam, hblank]
    rfl
  unfold file resolveFile
  rw [hparam]
  exact ((Access.Gives.lift _).bind_error _).bind_error _

section Asked

variable (hsources : HasSources source t) (settings : Settings)
include hsources

theorem gives_resolveFile (hwritable : IsWritable (normalize (trimmed asked)).toList)
    (hne : trimmed asked ≠ "") :
    Access.Gives source (resolveFile settings (.text asked))
      (match storedFor t.paths settings.minSuffixLength (trimmed asked) with
      | some f => .ok (trimmed asked, .text f)
      | none => .error (.sourceNotFound (trimmed asked))) := by
  have hblank : Text.trim asked.toList ≠ [] := by simpa [trimmed] using hne
  have hparam : requireParam (.text asked) "file" = .ok (trimmed asked) := by
    simp [requireParam, hblank]
    rfl
  unfold resolveFile
  rw [hparam]
  refine (Access.Gives.lift _).bind ((gives_resolve hsources _ hwritable).bind ?_)
  cases storedFor t.paths settings.minSuffixLength (trimmed asked) with
  | some f => exact .pure _
  | none => exact .throw _

theorem gives_file_of_none (hwritable : IsWritable (normalize (trimmed asked)).toList)
    (hne : trimmed asked ≠ "")
    (hstored : storedFor t.paths settings.minSuffixLength (trimmed asked) = none) :
    Access.Gives source (file settings (.text asked))
      (.error (.sourceNotFound (trimmed asked))) := by
  have hresolved := gives_resolveFile hsources settings hwritable hne
  simp only [hstored] at hresolved
  exact hresolved.bind_error _

theorem gives_file_of_some (hwritable : IsWritable (normalize (trimmed asked)).toList)
    (hne : trimmed asked ≠ "")
    (hstored : storedFor t.paths settings.minSuffixLength (trimmed asked) = some f)
    (hrow : row ∈ t.named) (hpath : Row.get row "file" = .text f) :
    Access.Gives source (file settings (.text asked)) (.ok (opened (trimmed asked) row)) := by
  have hresolved := gives_resolveFile hsources settings hwritable hne
  simp only [hstored] at hresolved
  refine hresolved.bind ((hsources.gives_get hrow hpath).bind ?_)
  have hfile : (SourceFile.ofRow row).file = .text f := by
    simp [SourceFile.ofRow, hpath, Cell.toJson]
  rw [opened, hfile]
  exact .pure _

variable (hback : '\\' ∉ asked.toList) (hwritable : IsWritable asked.toList) {later : Cache}
  (hlater : later.Faithful source)
include hback hwritable hlater

theorem file_failed_or_opened :
    let again := ((file settings (.text asked)).run source later).1
    let stored? := storedFor t.paths settings.minSuffixLength (trimmed asked)
    (∃ e, stored? = none ∧ again = .error e) ∨
      ∃ f, stored? = some f ∧ ∃ row ∈ t.named, Row.get row "file" = .text f ∧
        again = .ok (opened (trimmed asked) row) := by
  have hself : normalize (trimmed asked) = trimmed asked := normalize_trimmed hback
  have hwritable' : IsWritable (normalize (trimmed asked)).toList := by
    rw [hself, trimmed, String.toList_ofList]
    exact fun c hc => hwritable c ((Text.strip_sublist _ _).mem hc)
  dsimp only
  by_cases hblank : trimmed asked = ""
  · obtain ⟨_, -, hrun⟩ := gives_file_of_blank settings hblank later hlater
    have hnone : storedFor t.paths settings.minSuffixLength (trimmed asked) = none := by
      unfold storedFor
      rw [hself, if_pos hblank]
    exact Or.inl ⟨_, hnone, congrArg Prod.fst hrun⟩
  cases hstored : storedFor t.paths settings.minSuffixLength (trimmed asked) with
  | none =>
    obtain ⟨_, -, hrun⟩ :=
      gives_file_of_none hsources settings hwritable' hblank hstored later hlater
    exact Or.inl ⟨_, rfl, congrArg Prod.fst hrun⟩
  | some f =>
    obtain ⟨row, hrow, hpath⟩ := Table.mem_paths.mp (mem_of_storedFor hstored)
    obtain ⟨_, -, hrun⟩ :=
      gives_file_of_some hsources settings hwritable' hblank hstored hrow hpath later hlater
    exact Or.inr ⟨f, rfl, row, hrow, hpath, congrArg Prod.fst hrun⟩

theorem exists_row_of_file {answer : Json}
    (h : ((file settings (.text asked)).run source later).1 = .ok answer) :
    ∃ row ∈ t.named, answer = opened (trimmed asked) row := by
  obtain ⟨e, -, hagain⟩ | ⟨f, -, row, hrow, -, hagain⟩ :=
    file_failed_or_opened hsources settings hback hwritable hlater
  · cases h.symm.trans hagain
  · exact ⟨row, hrow, Except.ok.inj (h.symm.trans hagain)⟩

theorem file_eq_opened_iff (hrow : row ∈ t.named) (hpath : Row.get row "file" = .text f) :
    ((file settings (.text asked)).run source later).1 = .ok (opened (trimmed asked) row) ↔
      trimmed asked ≠ "" ∧ (IsFirstStored t.paths (trimmed asked) f ∨
        IsNoneStored t.paths (trimmed asked) ∧
          ∃ s, IsLongestSingle t.paths settings.minSuffixLength (trimmed asked) s f) := by
  have hstored : storedFor t.paths settings.minSuffixLength (trimmed asked) = some f ↔ _ :=
    storedFor_eq_some_iff hsources.keys
  rw [normalize_trimmed hback] at hstored
  rw [← hstored]
  obtain ⟨e, hnone, hagain⟩ | ⟨g, hsome, other, hother, hg, hagain⟩ :=
    file_failed_or_opened hsources settings hback hwritable hlater
  · simp [hagain, hnone]
  · rw [hagain, hsome, Except.ok.injEq, Option.some.injEq]
    refine ⟨fun h => file_eq_of_opened_eq h hg hpath, ?_⟩
    rintro rfl
    rw [hsources.eq_of_path hother hrow hg hpath]

theorem file_eq_opened_self (htrimmed : IsTrimmed asked) (hne : asked ≠ "") (hrow : row ∈ t.named)
    (hpath : Row.get row "file" = .text asked) :
    ((file settings (.text asked)).run source later).1 = .ok (opened asked row) := by
  have hopened := file_eq_opened_iff hsources settings hback hwritable hlater hrow hpath
  rw [trimmed_eq_self htrimmed] at hopened
  exact hopened.mpr
    ⟨hne, Or.inl (isFirstStored_self (Table.mem_paths.mpr ⟨row, hrow, hpath⟩) hne)⟩

end Asked

theorem fresh_list_shelved (hsources : HasSources source t) :
    ∃ stored, Sources.list.fresh source = .ok stored ∧
      treeOf stored = ofFiles ((sortBy ["file"] t.named).map shelved) := by
  refine ⟨_, hsources.fresh_list, ?_⟩
  rw [treeOf, List.map_map]
  rfl

/-- A listed file is opened by its path if it is what that path is resolved to: the first of its
forms that is stored, or the only end of the longest suffix that has a single one. A file that is
stored by the path that it is listed with is always opened. -/
theorem file_of_listed (source : Source) (t : Table) (settings : Settings) (path answer : Json)
    (cache cache' : Cache) (hsources : HasSources source t)
    (hapart : (t.named.map shelved).Pairwise IsApartFrom) (hcache : cache.Faithful source)
    (h : (listDirectory path).run source cache = (.ok answer, cache')) :
    cache'.Faithful source ∧
    ∃ stored directory, Sources.list.fresh source = .ok stored ∧
      answer = listing (treeOf stored) directory ∧
      ∀ name p package, .file name p package ∈ (treeOf stored).list directory →
        ∃ row ∈ t.named, ∃ f, Row.get row "file" = .text f ∧ p = pathOf (namesOf f) ∧
          package = (Row.get row "package").toJson ∧
          (∀ other ∈ t.named, ∀ g, Row.get other "file" = .text g → pathOf (namesOf g) = p →
            other = row) ∧
          ∀ later : Cache, later.Faithful source →
            let again := ((file settings (.text p)).run source later).1
            let q := trimmed p
            (∀ answer', again = .ok answer' → ∃ other ∈ t.named, answer' = opened q other) ∧
            (again = .ok (opened q row) ↔
              q ≠ "" ∧ (IsFirstStored t.paths q f ∨ IsNoneStored t.paths q ∧
                ∃ s, IsLongestSingle t.paths settings.minSuffixLength q s f)) ∧
            (f = p → again = .ok (opened p row)) := by
  obtain ⟨hresult, hfaithful⟩ := steady_listDirectory path cache hcache
  rw [h] at hresult hfaithful
  obtain ⟨directory, b, -, hbrowser, -, hanswer⟩ := exists_of_fresh_listDirectory hresult.symm
  obtain ⟨stored, hstored, -, rfl⟩ := fresh_browser_eq_ok_iff.mp hbrowser
  obtain ⟨stored', hstored', htree⟩ := fresh_list_shelved hsources
  obtain rfl := Except.ok.inj (hstored.symm.trans hstored')
  refine ⟨hfaithful, stored, directory, hstored, hanswer, fun name p package hlisted => ?_⟩
  rw [htree] at hlisted
  obtain ⟨row, hrow, f, hf, hne, rfl, hpackage⟩ := exists_row_of_mem_list hlisted
  replace hrow : row ∈ t.named := List.mem_mergeSort.mp hrow
  refine ⟨row, hrow, f, hf, rfl, hpackage,
    fun other hother g hg hsame => eq_of_pathOf_eq hapart hrow hother hf hg hne hsame,
    fun later hlater => ?_⟩
  have hwritable : IsWritable (pathOf (namesOf f)).toList := by
    intro c hc
    rcases mem_of_mem_pathOf_namesOf hc with rfl | hc
    · decide
    · exact hsources.isWritable hrow hf c hc
  have hback := backslash_not_mem_pathOf_namesOf f
  refine ⟨fun _ hanswer => exists_row_of_file hsources settings hback hwritable hlater hanswer,
    file_eq_opened_iff hsources settings hback hwritable hlater hrow hf, fun hself => ?_⟩
  have hne' := pathOf_namesOf_ne_empty hne
  have htrimmed := isTrimmed_of_pathOf_namesOf hself.symm
  rw [← hself] at hback hwritable hne' ⊢
  exact file_eq_opened_self hsources settings hback hwritable hlater htrimmed hne' hrow hf

end Requests

def shelfOf (path : String) : Table :=
  ⟨[{ name := "file" }, { name := "package" }, { name := "content" }],
    [[.text path, .text "main", .text "package main"]]⟩

def rowOf (path : String) : Row :=
  [("file", .text path), ("package", .text "main"), ("content", .text "package main")]

def heldIn (path : String) : Source where
  path := "files.db"
  backing := .tables { tables := [("sources", shelfOf path)], hasDetailView := false }

section HeldIn

variable {path : String} {above : List (List Char)} {name : List Char}

theorem named_shelfOf (path : String) : (shelfOf path).named = [rowOf path] := rfl

theorem get_rowOf_package (path : String) : Row.get (rowOf path) "package" = .text "main" := by
  have hother : sameName "file" "package" = false := by decide +kernel
  have hsame : sameName "package" "package" = true := by decide +kernel
  simp [Row.get, Row.get?, rowOf, hother, hsame]

theorem hasSources_shelfOf (h : IsWritable path.toList) :
    HasSources (heldIn path) (shelfOf path) where
  found := ⟨_, rfl, rfl⟩
  columns := by
    have hfind : ∀ name ∈ ["file", "package", "content"],
        (shelfOf "").columns.find? (sameName ·.name name) = some { name } := by
      decide +kernel
    intro name hname
    have hfound : (shelfOf path).columns.find? (sameName ·.name name) = some { name } :=
      hfind name hname
    exact ⟨{ name }, by rw [Table.column, hfound]; rfl⟩
  textual := by
    intro c hc
    obtain rfl := Except.ok.inj hc
    decide
  paths := by
    intro row hrow
    obtain rfl := List.mem_singleton.mp hrow
    exact Or.inr ⟨path, rfl, h⟩
  keys := List.nodup_singleton path

theorem fresh_list_heldIn (h : IsWritable path.toList) :
    Sources.list.fresh (heldIn path) = .ok [(.text path, .text "main")] := by
  rw [(hasSources_shelfOf h).fresh_list, named_shelfOf, sortBy, List.mergeSort_singleton,
    List.map_singleton, get_rowOf_package]
  rfl

theorem run_listDirectory_heldIn (hwritable : IsWritable path.toList)
    (hnames : namesOf path = above ++ [name]) {asked : String}
    (hasked : normalizeBrowse asked = pathOf above) :
    let tree := treeOf [(.text path, .text "main")]
    ∃ cache' : Cache, cache'.Faithful (heldIn path) ∧
      (listDirectory (.text asked)).run (heldIn path) {} =
        (.ok (listing tree (pathOf above)), cache') ∧
      .file (String.ofList name) (pathOf (namesOf path)) (.text "main") ∈
        tree.list (pathOf above) := by
  intro tree
  have htree : browser.fresh (heldIn path) = .ok tree := by
    refine fresh_browser_eq_ok_iff.mpr ⟨_, fresh_list_heldIn hwritable, fun f hf => ?_, rfl⟩
    obtain rfl := List.mem_singleton.mp hf
    rfl
  have hshown : ShownBy (path, .text "main") (pathOf above)
      (.file (String.ofList name) (pathOf (namesOf path)) (.text "main")) := by
    refine shownBy_iff.mpr ⟨above, name, [], by simpa using hnames, rfl, ?_⟩
    rw [hnames, entryAt]
  have hfiles : tree = ofFiles [(path, .text "main")] := rfl
  have hhas : tree.has (pathOf above) = true := by
    rw [hfiles, has_ofFiles]
    exact Or.inr ⟨_, List.mem_singleton_self _, _, hshown⟩
  have hlisted : .file (String.ofList name) (pathOf (namesOf path)) (.text "main") ∈
      tree.list (pathOf above) := by
    rw [hfiles, mem_list_of_apart (List.pairwise_singleton _ _)]
    exact ⟨_, List.mem_singleton_self _, hshown⟩
  obtain ⟨cache', hcache', hrun⟩ := run_listDirectory htree asked (.empty _)
  rw [hasked, listed_eq_ok_iff.mpr ⟨hhas, rfl⟩] at hrun
  exact ⟨cache', hcache', hrun, hlisted⟩

end HeldIn

/-- With a slash in front of it, a file is found by the longest suffix of the path that it is listed
with. -/
theorem file_of_listed_of_leading_slash :
    let tree := treeOf [(.text "/src/main.go", .text "main")]
    ∃ cache', (listDirectory (.text " src/")).run (heldIn "/src/main.go") {} =
        (.ok (listing tree "src"), cache') ∧
      .file "main.go" "src/main.go" (.text "main") ∈ tree.list "src" ∧
      ((file {} (.text "src/main.go")).run (heldIn "/src/main.go") cache').1 =
        .ok (opened "src/main.go" (rowOf "/src/main.go")) := by
  intro tree
  have hwritable : IsWritable "/src/main.go".toList := by decide
  have hnames : namesOf "/src/main.go" = ["src".toList] ++ ["main.go".toList] := by decide
  have hasked : normalizeBrowse " src/" = pathOf ["src".toList] := by decide
  have hdirectory : pathOf ["src".toList] = "src" := by decide
  have hpath : pathOf (namesOf "/src/main.go") = "src/main.go" := by decide
  obtain ⟨cache', hcache', hrun, hlisted⟩ := run_listDirectory_heldIn hwritable hnames hasked
  rw [hdirectory] at hrun hlisted
  rw [hpath] at hlisted
  refine ⟨cache', hrun, hlisted, ?_⟩
  obtain ⟨-, stored, directory, hstored, hanswer, hagain⟩ :=
    file_of_listed _ _ {} _ _ _ _ (hasSources_shelfOf hwritable) (List.pairwise_singleton _ _)
      (.empty _) hrun
  obtain rfl := Except.ok.inj ((fresh_list_heldIn hwritable).symm.trans hstored)
  obtain rfl := listing_inj hanswer
  obtain ⟨row, hrow, f, hf, -, -, -, hopened⟩ := hagain _ _ _ hlisted
  obtain rfl := List.mem_singleton.mp hrow
  obtain rfl : "/src/main.go" = f := Cell.text.inj hf
  have hfound : storedFor (shelfOf "/src/main.go").paths 8 "src/main.go" = some "/src/main.go" := by
    decide +kernel
  have hself : normalize "src/main.go" = "src/main.go" := by decide
  have hrequested : trimmed "src/main.go" = "src/main.go" := by decide
  obtain ⟨-, hiff, -⟩ := hopened cache' hcache'
  rw [hrequested] at hiff
  rw [storedFor_eq_some_iff (hasSources_shelfOf hwritable).keys, hself] at hfound
  exact hiff.mpr hfound

theorem doubled_slash_not_opened :
    let t := shelfOf "a//b.go"
    let tree := treeOf [(.text "a//b.go", .text "main")]
    HasSources (heldIn "a//b.go") t ∧ (t.named.map shelved).Pairwise IsApartFrom ∧
    ∃ cache', (listDirectory (.text "a")).run (heldIn "a//b.go") {} =
        (.ok (listing tree "a"), cache') ∧
      .file "b.go" "a/b.go" (.text "main") ∈ tree.list "a" ∧
      ((file {} (.text "a/b.go")).run (heldIn "a//b.go") cache').1 =
        .error (.sourceNotFound "a/b.go") := by
  intro t tree
  have hwritable : IsWritable "a//b.go".toList := by decide
  have hnames : namesOf "a//b.go" = ["a".toList] ++ ["b.go".toList] := by decide
  have hasked : normalizeBrowse "a" = pathOf ["a".toList] := by decide
  have hdirectory : pathOf ["a".toList] = "a" := by decide
  have hpath : pathOf (namesOf "a//b.go") = "a/b.go" := by decide
  have hsources := hasSources_shelfOf hwritable
  obtain ⟨cache', hcache', hrun, hlisted⟩ := run_listDirectory_heldIn hwritable hnames hasked
  rw [hdirectory] at hrun hlisted
  rw [hpath] at hlisted
  refine ⟨hsources, List.pairwise_singleton _ _, cache', hrun, hlisted, ?_⟩
  have hnone : storedFor (shelfOf "a//b.go").paths 8 (trimmed "a/b.go") = none := by
    decide +kernel
  obtain ⟨_, -, hagain⟩ :=
    gives_file_of_none hsources {} (by decide) (by decide) hnone cache' hcache'
  have hrequested : trimmed "a/b.go" = "a/b.go" := by decide
  rw [hagain, hrequested]

end CallAtlas.Service
