import CallAtlas.Proofs.Sorting
import CallAtlas.Proofs.Store.Caches

/-! What the directories of a store are found to hold. The directory tree is built from the stored
files once, and is then the one that every request would build again. -/
namespace CallAtlas.Store

variable {α β : Type}

theorem mapM_eq_ok_iff {f : α → Except Failure β} {g : α → β}
    (hf : ∀ a b, f a = .ok b → b = g a) {l : List α} {bs : List β} :
    l.mapM f = .ok bs ↔ (∀ a ∈ l, f a = .ok (g a)) ∧ bs = l.map g := by
  induction l generalizing bs with
  | nil => simp [pure, Except.pure, eq_comm]
  | cons a l ih =>
    rw [List.mapM_cons]
    constructor
    · intro h
      obtain ⟨b, hb, h⟩ := Except.bind_eq_ok h
      obtain ⟨rest, hrest, h⟩ := Except.bind_eq_ok h
      obtain ⟨hl, rfl⟩ := ih.mp hrest
      obtain rfl := hf a b hb
      exact ⟨List.forall_mem_cons.mpr ⟨hb, hl⟩, (Except.ok.inj h).symm⟩
    · rintro ⟨h, rfl⟩
      obtain ⟨ha, hl⟩ := List.forall_mem_cons.mp h
      rw [ha, ih.mpr ⟨hl, rfl⟩]
      rfl

variable [Engine] {source : Source}

theorem Access.run_mapM_lift (f : α → Except Failure β) (l : List α) {cache : Cache} :
    (l.mapM fun a => lift (f a)).run source cache = (l.mapM f, cache) := by
  induction l with
  | nil => rfl
  | cons a l ih =>
    rw [List.mapM_cons, List.mapM_cons, run_bind, run_lift]
    cases f a with
    | error e => rfl
    | ok b =>
      dsimp only
      rw [run_bind, ih]
      cases l.mapM f <;> rfl

theorem Sources.steady_list : Access.Steady source Sources.list :=
  Access.steady_database.bind fun _ _ => .lift _

theorem Sources.fresh_list {db : Database} {t : Table} {cells : List (Cell × Cell)}
    (hdb : Access.database.fresh source = .ok db) (ht : db.relation "sources" = .ok t)
    (hrequire : t.require ["file", "package"] = .ok ())
    (hcells : (sortBy ["file"] t.named).map
      (fun row => (Row.get row "file", Row.get row "package")) = cells) :
    Sources.list.fresh source = .ok (cells.map fun (file, package) =>
      (file.toJson, package.toJson)) := by
  unfold Sources.list
  rw [Access.steady_database.fresh_bind fun _ _ => .lift _, hdb]
  change (Access.lift _).fresh source = _
  rw [Access.fresh_lift, ht]
  change (t.require _ >>= _) = _
  rw [hrequire, ← hcells, List.map_map]
  rfl

end CallAtlas.Store

namespace CallAtlas.Service

open Store

def treeFile (stored : Json × Json) : String × Json :=
  (stored.1.text?.getD "", stored.2)

def treeOf (stored : List (Json × Json)) : Browser :=
  Browser.ofFiles (stored.map treeFile)

def enterable (stored : Json × Json) : Except Failure (String × Json) := do
  let _ ← browsePath stored.1
  return treeFile stored

theorem eq_treeFile_of_enterable (stored : Json × Json) (file : String × Json)
    (h : enterable stored = .ok file) : file = treeFile stored := by
  obtain ⟨_, -, h⟩ := Except.bind_eq_ok h
  exact (Except.ok.inj h).symm

def listing (b : Browser) (directory : String) : Json :=
  .object [("path", .text directory), ("count", .int (b.list directory).length),
    ("entries", .list ((b.list directory).map Entry.toJson))]

def listed (b : Browser) (directory : String) : Except Failure Json :=
  if b.has directory then .ok (listing b directory) else .error (.directoryNotFound directory)

theorem listing_inj {b b' : Browser} {directory directory' : String}
    (h : listing b directory = listing b' directory') : directory = directory' := by
  simp only [listing, Json.object.injEq, List.cons.injEq, Prod.mk.injEq, Json.text.injEq] at h
  exact h.1.2

theorem listed_eq_ok_iff {b : Browser} {directory : String} {answer : Json} :
    listed b directory = .ok answer ↔ b.has directory = true ∧ answer = listing b directory := by
  unfold listed
  split
  · rename_i hhas
    simp [hhas, eq_comm]
  · rename_i hhas
    simp [hhas]

variable [Engine] {source : Source} {path : Json}

def indexed : Access Browser := do
  let stored ← Sources.list
  Access.lift do
    return Browser.ofFiles (← stored.mapM enterable)

theorem run_browser (source : Source) (cache : Cache) :
    browser.run source cache =
      match cache.browser with
      | some b => (.ok b, cache)
      | none =>
        match indexed.run source cache with
        | (.ok b, cache') => (.ok b, { cache' with browser := some b })
        | (.error e, cache') => (.error e, cache') := by
  have henter : ∀ stored : Json × Json, (do
      discard (Access.lift (browsePath stored.1))
      return (stored.1.text?.getD "", stored.2) : Access (String × Json)) =
        Access.lift (enterable stored) := by
    intro stored
    unfold enterable
    cases browsePath stored.1 <;> rfl
  unfold browser indexed
  rw [Access.run_bind, Access.run_get]
  dsimp only
  cases cache.browser with
  | some b => rfl
  | none =>
    simp only [Access.run_bind, Access.run_lift]
    rcases Sources.list.run source cache with ⟨_ | stored, _⟩
    · rfl
    · simp only [henter, Access.run_mapM_lift]
      cases stored.mapM enterable <;> rfl

theorem steady_indexed : Access.Steady source indexed :=
  Sources.steady_list.bind fun _ _ => .lift _

theorem fresh_browser : browser.fresh source = indexed.fresh source := by
  unfold Access.fresh
  rw [run_browser]
  rcases indexed.run source {} with ⟨_ | _, _⟩ <;> rfl

theorem steady_browser : Access.Steady source browser := by
  intro cache hcache
  rw [run_browser]
  cases hbrowser : cache.browser with
  | some b => exact ⟨(hcache.browser b hbrowser).symm, hcache⟩
  | none =>
    obtain ⟨cache', hcache', hrun⟩ := steady_indexed.run_eq hcache
    rw [hrun, fresh_browser]
    cases hfresh : indexed.fresh source with
    | error e => exact ⟨rfl, hcache'⟩
    | ok b =>
      refine ⟨rfl, hcache'.connected, hcache'.connection, hcache'.compiled, fun b' hb' => ?_⟩
      rw [fresh_browser, hfresh, Option.some.inj hb']

theorem fresh_browser_eq_ok_iff {b : Browser} : browser.fresh source = .ok b ↔
    ∃ stored, Sources.list.fresh source = .ok stored ∧
      (∀ f ∈ stored, enterable f = .ok (treeFile f)) ∧ b = treeOf stored := by
  rw [fresh_browser, indexed, Sources.steady_list.fresh_bind fun _ _ => .lift _]
  simp only [Access.fresh_lift]
  constructor
  · intro h
    obtain ⟨stored, hstored, h⟩ := Except.bind_eq_ok h
    obtain ⟨files, hfiles, h⟩ := Except.bind_eq_ok h
    obtain ⟨henter, rfl⟩ := (mapM_eq_ok_iff eq_treeFile_of_enterable).mp hfiles
    exact ⟨stored, hstored, henter, (Except.ok.inj h).symm⟩
  · rintro ⟨stored, hstored, henter, rfl⟩
    rw [hstored]
    change (stored.mapM enterable >>= _) = _
    rw [(mapM_eq_ok_iff eq_treeFile_of_enterable).mpr ⟨henter, rfl⟩]
    rfl

theorem listDirectory_eq (path : Json) : listDirectory path = (do
    let directory ← Access.lift (browsePath path)
    let b ← browser
    Access.lift (listed b directory)) := by
  unfold listDirectory
  refine bind_congr fun directory => bind_congr fun b => ?_
  unfold listed listing
  cases b.has directory with
  | true => simp [Access.lift]
  | false => rfl

theorem steady_listDirectory (path : Json) : Access.Steady source (listDirectory path) := by
  rw [listDirectory_eq]
  exact (Access.Steady.lift _).bind fun _ _ => steady_browser.bind fun _ _ => .lift _

theorem fresh_listDirectory : (listDirectory path).fresh source = (do
    let directory ← browsePath path
    let b ← browser.fresh source
    listed b directory) := by
  rw [listDirectory_eq, (Access.Steady.lift _).fresh_bind fun _ _ =>
    steady_browser.bind fun _ _ => .lift _, Access.fresh_lift]
  simp only [steady_browser.fresh_bind fun _ _ => .lift _, Access.fresh_lift]

theorem exists_of_fresh_listDirectory {answer : Json}
    (h : (listDirectory path).fresh source = .ok answer) :
    ∃ directory b, browsePath path = .ok directory ∧ browser.fresh source = .ok b ∧
      b.has directory = true ∧ answer = listing b directory := by
  rw [fresh_listDirectory] at h
  obtain ⟨directory, hdirectory, h⟩ := Except.bind_eq_ok h
  obtain ⟨b, hb, h⟩ := Except.bind_eq_ok h
  obtain ⟨hhas, hanswer⟩ := listed_eq_ok_iff.mp h
  exact ⟨directory, b, hdirectory, hb, hhas, hanswer⟩

theorem run_listDirectory {b : Browser} (hb : browser.fresh source = .ok b) (asked : String)
    {cache : Cache} (hcache : cache.Faithful source) :
    ∃ cache', cache'.Faithful source ∧ (listDirectory (.text asked)).run source cache =
      (listed b (Path.normalizeBrowse asked), cache') := by
  obtain ⟨cache', hcache', hrun⟩ := (steady_listDirectory (.text asked)).run_eq hcache
  refine ⟨cache', hcache', ?_⟩
  rw [hrun, fresh_listDirectory, hb]
  rfl

end CallAtlas.Service
