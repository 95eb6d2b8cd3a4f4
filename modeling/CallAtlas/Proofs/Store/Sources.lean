import CallAtlas.Proofs.Path.LastSegment
import CallAtlas.Proofs.Store.Listing
import Mathlib.Data.List.Pairwise
import Mathlib.Data.List.TakeWhile

namespace CallAtlas.Store

open CallAtlas.Path

def IsWritable (text : List Char) : Prop :=
  ∀ c ∈ text, Text.Half.unit? c = none

instance (text : List Char) : Decidable (IsWritable text) :=
  List.decidableBAll _ text

theorem IsWritable.checkWritable {text : String} (h : IsWritable text.toList) :
    Text.Encoding.checkWritable text = .ok () := by
  have hnone : text.toList.dropWhile (fun c => (Text.Half.unit? c).isNone) = [] :=
    List.dropWhile_eq_nil_iff.mpr fun c hc => by simp [h c hc]
  rw [Text.Encoding.checkWritable, Text.Half.run?, hnone]
  rfl

def Table.paths (t : Table) : List String :=
  t.named.filterMap fun row => (Row.get row "file").text?

def SourceFile.ofRow (row : Row) : SourceFile where
  file := (Row.get row "file").toJson
  package := (Row.get row "package").toJson
  content := (Row.get row "content").toJson.orElse (.text "")

/-- Whether a stored path ends with a suffix as the store sees it: a null character ends the path,
and only the empty path ends with the empty suffix. -/
def endsAt (suffix path : String) : Bool :=
  Sources.endsWith suffix.toList (upToNull path.toList)

def Table.ending (t : Table) (s : String) : List Json :=
  (sortBy ["file"] (t.named.filter fun row => (Row.get row "file").asText?.any (endsAt s))).map
    fun row => (Row.get row "file").toJson

def Row.hasPath (path : String) (row : Row) : Bool :=
  decide (Row.get row "file" = .text path)

theorem Row.text?_file_iff {row : Row} {path : String} :
    (Row.get row "file").text? = some path ↔ Row.get row "file" = .text path := by
  cases Row.get row "file" <;> simp [Cell.text?]

theorem Table.mem_paths {t : Table} {path : String} :
    path ∈ t.paths ↔ ∃ row ∈ t.named, Row.get row "file" = .text path := by
  simp only [Table.paths, List.mem_filterMap, Row.text?_file_iff]

theorem Affinity.adapt_text {a : Affinity} (h : a ≠ .integral) (s : String) :
    a.adapt (.text s) = .text s := by
  cases a with
  | integral => exact absurd rfl h
  | textual | untyped => rfl

theorem Table.require_eq_ok {t : Table} {names : List String}
    (h : ∀ name ∈ names, ∃ c, t.column name = .ok c) : t.require names = .ok () := by
  induction names with
  | nil => rfl
  | cons name names ih =>
    obtain ⟨⟨c, hc⟩, hnames⟩ := List.forall_mem_cons.mp h
    have hrest : t.require (name :: names) = discard (t.column name) >>= fun _ => t.require names :=
      List.forM_cons ..
    rw [hrest, hc]
    exact ih hnames

variable [Engine] {α β : Type} {source : Source}

/-- The store has this table of source files. It has their columns, and paths are texts that no two
rows share; a row may be without one. -/
structure HasSources (source : Source) (t : Table) : Prop where
  found : ∃ db, Access.database.fresh source = .ok db ∧ db.relation "sources" = .ok t
  columns : ∀ name ∈ ["file", "package", "content"], ∃ c, t.column name = .ok c
  textual : ∀ c, t.column "file" = .ok c → c.affinity ≠ .integral
  paths : ∀ row ∈ t.named, Row.get row "file" = .null ∨
    ∃ path, Row.get row "file" = .text path ∧ IsWritable path.toList
  keys : t.paths.Nodup

theorem gives_database {db : Database} (h : Access.database.fresh source = .ok db) :
    Access.Gives source Access.database (.ok db) :=
  h ▸ .of_steady Access.steady_database

theorem gives_connect {db : Database} (h : Access.database.fresh source = .ok db) :
    Access.Gives source Access.connect (.ok ()) := by
  rw [Access.fresh_database] at h
  have hrun : Access.stored.run source {} = (.ok db, (Access.stored.run source {}).2) :=
    Prod.ext h rfl
  obtain ⟨_, _, -, hconnect, -⟩ := Access.steady_connect.of_bind (.empty source) hrun
  exact hconnect ▸ .of_steady Access.steady_connect

namespace HasSources

variable {t : Table} {path s : String}

theorem require (h : HasSources source t) {needed : List String}
    (hneeded : ∀ name ∈ needed, name ∈ ["file", "package", "content"]) :
    t.require needed = .ok () :=
  Table.require_eq_ok fun name hname => h.columns name (hneeded name hname)

theorem eq_of_path (h : HasSources source t) {a b : Row} (ha : a ∈ t.named) (hb : b ∈ t.named)
    (hpath : Row.get a "file" = .text path) (hpath' : Row.get b "file" = .text path) : a = b := by
  by_contra hne
  have hdiffer := List.pairwise_filterMap.mp h.keys
  have hsymm : Std.Symm fun a b : Row => ∀ p, (Row.get a "file").text? = some p →
      ∀ q, (Row.get b "file").text? = some q → p ≠ q :=
    ⟨fun a b hab p hp q hq => (hab q hq p hp).symm⟩
  exact hdiffer.forall ha hb hne path (Row.text?_file_iff.mpr hpath) path
    (Row.text?_file_iff.mpr hpath') rfl

theorem gives_lookup (h : HasSources source t) {needed : List String}
    (hneeded : ∀ name ∈ needed, name ∈ ["file", "package", "content"])
    (hpath : IsWritable path.toList) :
    Access.Gives source (lookup "sources" needed "file" (.text path))
      (.ok (t.named.filter (Row.hasPath path))) := by
  obtain ⟨db, hdb, ht⟩ := h.found
  obtain ⟨c, hc⟩ := h.columns "file" (by simp)
  refine (gives_database hdb).bind ?_
  have hrequire : t.require needed = .ok () := h.require hneeded
  have hrequire' : t.require ["file"] = .ok () := h.require (by simp)
  have hrows : t.restrict "file" (.text path) = .ok (t.named.filter (Row.hasPath path)) := by
    have hadapt := Affinity.adapt_text (h.textual c hc) path
    rw [Table.restrict, hc]
    refine congrArg Except.ok (List.filter_congr fun row hrow => ?_)
    rw [hadapt, Row.hasPath]
    rcases h.paths row hrow with hnull | ⟨stored, hstored, -⟩
    · rw [hnull]
      rfl
    · rw [hstored]
      by_cases hsame : stored = path <;> simp [Cell.same, hsame]
  rw [ht]
  have hcell : Cell.ofParameter 1 (.text path) = .ok (.text path) := by
    simp only [Cell.ofParameter, Cell.ofJson?, hpath.checkWritable]
    rfl
  have hall : (do
      let t ← (Except.ok t : Except Failure Table)
      t.require needed
      t.require ["file"]
      t.restrict "file" (← Cell.ofParameter 1 (.text path))) =
        .ok (t.named.filter (Row.hasPath path)) := by
    simp only [bind, Except.bind, hrequire, hrequire', hcell, hrows]
  rw [hall]
  exact .lift _

theorem isWritable (h : HasSources source t) {row : Row} (hrow : row ∈ t.named)
    (hpath : Row.get row "file" = .text path) : IsWritable path.toList := by
  rcases h.paths row hrow with hnull | ⟨stored, hstored, hwritable⟩
  · rw [hpath] at hnull
    contradiction
  · rw [hpath] at hstored
    rwa [Cell.text.inj hstored]

theorem gives_contains (h : HasSources source t) (hpath : IsWritable path.toList) :
    Access.Gives source (Sources.contains (.text path)) (.ok (t.paths.contains path)) := by
  have hstored : (!(t.named.filter (Row.hasPath path)).isEmpty) = t.paths.contains path := by
    rw [Bool.eq_iff_iff, List.contains_iff_mem, Table.mem_paths]
    simp [List.filter_eq_nil_iff, Row.hasPath]
  rw [← hstored]
  exact (h.gives_lookup (by simp) hpath).bind (.pure _)

theorem gives_get (h : HasSources source t) {row : Row} (hrow : row ∈ t.named)
    (hpath : Row.get row "file" = .text path) :
    Access.Gives source (Sources.get (.text path)) (.ok (some (SourceFile.ofRow row))) := by
  have hmem : row ∈ t.named.filter (Row.hasPath path) :=
    List.mem_filter.mpr ⟨hrow, by simpa [Row.hasPath] using hpath⟩
  have hhead : (t.named.filter (Row.hasPath path)).head? = some row := by
    cases hrows : t.named.filter (Row.hasPath path) with
    | nil => simp [hrows] at hmem
    | cons first rest =>
      have hfirst : first ∈ t.named.filter (Row.hasPath path) := by simp [hrows]
      obtain ⟨hfirst, hsame⟩ := List.mem_filter.mp hfirst
      rw [h.eq_of_path hfirst hrow (by simpa [Row.hasPath] using hsame) hpath]
      rfl
  have hfound : (t.named.filter (Row.hasPath path)).head?.map SourceFile.ofRow =
      some (SourceFile.ofRow row) := by
    rw [hhead]
    rfl
  rw [← hfound]
  exact (h.gives_lookup (by simp) (h.isWritable hrow hpath)).bind (.pure _)

theorem gives_withSuffix (h : HasSources source t) (hsuffix : IsWritable s.toList) :
    Access.Gives source (Sources.withSuffix (.text s) (.int 2)) (.ok ((t.ending s).take 2)) := by
  obtain ⟨db, hdb, ht⟩ := h.found
  have hrequire : t.require ["file"] = .ok () := h.require (by simp)
  have hcell : Cell.ofParameter 3 (.text s) = .ok (.text s) := by
    simp only [Cell.ofParameter, Cell.ofJson?, hsuffix.checkWritable]
    rfl
  have hcap : Cell.ofParameter 4 (.int 2) = .ok (.int 2) := rfl
  have hbound : Sources.boundOf (.int 2) = .ok (some 2) := rfl
  refine (gives_connect hdb).bind ((gives_database hdb).bind ?_)
  simp only [ht, bind, Except.bind, hrequire, hcell, hcap, hbound]
  exact .lift _

theorem fresh_list (h : HasSources source t) :
    Sources.list.fresh source = .ok ((sortBy ["file"] t.named).map fun row =>
      ((Row.get row "file").toJson, (Row.get row "package").toJson)) := by
  obtain ⟨db, hdb, ht⟩ := h.found
  have hrequire : t.require ["file", "package"] = .ok () := h.require (by simp)
  rw [Sources.fresh_list hdb ht hrequire rfl, List.map_map]
  rfl

end HasSources

end CallAtlas.Store

namespace CallAtlas.Resolve

open Store CallAtlas.Path

variable {α β : Type} {paths : List String} {minLength : Int} {path s f : String}

def single? : List α → Option α
  | [a] => some a
  | _ => none

theorem single?_eq_some_iff {l : List α} {a : α} : single? l = some a ↔ l = [a] := by
  rcases l with _ | ⟨b, _ | ⟨c, rest⟩⟩ <;> simp [single?]

theorem single?_take (l : List α) : single? (l.take matchCap) = single? l := by
  rcases l with _ | ⟨b, _ | ⟨c, rest⟩⟩ <;> rfl

theorem single?_map (g : α → β) (l : List α) : single? (l.map g) = (single? l).map g := by
  rcases l with _ | ⟨b, _ | ⟨c, rest⟩⟩ <;> rfl

theorem single?_of_perm {l l' : List α} (h : l.Perm l') : single? l = single? l' := by
  ext a
  rw [single?_eq_some_iff, single?_eq_some_iff, ← List.perm_singleton, ← List.perm_singleton]
  exact ⟨h.symm.trans, h.trans⟩

def storedFor (paths : List String) (minLength : Int) (path : String) : Option String :=
  let p := normalize path
  if p = "" then none
  else
    ((exactCandidates p).find? paths.contains).or
      ((suffixCandidates minLength p).findSome? fun s => single? (paths.filter (endsAt s)))

def IsOnlyEnding (paths : List String) (s f : String) : Prop :=
  ∀ g, g ∈ paths ∧ endsAt s g = true ↔ g = f

/-- The longest suffix, among those of at least a given length that begin where a segment begins,
that exactly one stored path ends with. -/
structure IsLongestSingle (paths : List String) (minLength : Int) (path s f : String) : Prop where
  segment : IsSegmentSuffix s.toList path.toList
  long : minLength ≤ s.length
  only : IsOnlyEnding paths s f
  longest : ∀ t : String, IsSegmentSuffix t.toList path.toList → s.length < t.length →
    ∀ g, ¬IsOnlyEnding paths t g

theorem single?_filter_iff (hpaths : paths.Nodup) :
    single? (paths.filter (endsAt s)) = some f ↔ IsOnlyEnding paths s f := by
  rw [single?_eq_some_iff, ← List.perm_singleton,
    List.perm_ext_iff_of_nodup (hpaths.filter _) (List.nodup_singleton f)]
  simp only [List.mem_filter, List.mem_singleton, IsOnlyEnding]

theorem findSome?_single_iff (hpaths : paths.Nodup) :
    ((suffixCandidates minLength path).findSome? fun s => single? (paths.filter (endsAt s))) =
        some f ↔ ∃ s, IsLongestSingle paths minLength path s f := by
  have hpairwise := (pairwise_suffixCandidates minLength path).imp fun h => h.length_lt
  simp only [String.length_toList] at hpairwise
  rw [List.findSome?_eq_some_iff]
  constructor
  · rintro ⟨before, s, after, hsplit, hs, hbefore⟩
    have hmem : s ∈ suffixCandidates minLength path := by simp [hsplit]
    obtain ⟨hsegment, hlong⟩ := mem_suffixCandidates.mp hmem
    refine ⟨s, hsegment, hlong, (single?_filter_iff hpaths).mp hs, fun t ht hlt g hg => ?_⟩
    have htmem : t ∈ suffixCandidates minLength path := mem_suffixCandidates.mpr ⟨ht, by omega⟩
    rw [hsplit] at hpairwise htmem
    obtain ⟨-, hafter, -⟩ := List.pairwise_append.mp hpairwise
    -- A longer suffix is tried before, and would have settled the path.
    rcases List.mem_append.mp htmem with htmem | htmem
    · have hnone := hbefore t htmem
      rw [(single?_filter_iff hpaths).mpr hg] at hnone
      contradiction
    · rcases List.mem_cons.mp htmem with rfl | htmem
      · exact Nat.lt_irrefl _ hlt
      · exact Nat.lt_asymm hlt ((List.pairwise_cons.mp hafter).1 t htmem)
  · rintro ⟨s, hs⟩
    obtain ⟨before, after, hsplit⟩ :=
      List.append_of_mem (mem_suffixCandidates.mpr ⟨hs.segment, hs.long⟩)
    refine ⟨before, s, after, hsplit, (single?_filter_iff hpaths).mpr hs.only, fun t ht => ?_⟩
    have htmem : t ∈ suffixCandidates minLength path := by simp [hsplit, ht]
    rw [hsplit] at hpairwise
    have hlt := (List.pairwise_append.mp hpairwise).2.2 t ht s List.mem_cons_self
    rw [Option.eq_none_iff_forall_ne_some]
    intro g hg
    exact hs.longest t (mem_suffixCandidates.mp htmem).1 hlt g ((single?_filter_iff hpaths).mp hg)

theorem storedFor_eq_some_iff (hpaths : paths.Nodup) :
    storedFor paths minLength path = some f ↔ normalize path ≠ "" ∧
      (IsFirstStored paths (normalize path) f ∨ IsNoneStored paths (normalize path) ∧
        ∃ s, IsLongestSingle paths minLength (normalize path) s f) := by
  unfold storedFor
  dsimp only
  split
  · rename_i hempty
    simp [hempty]
  · rename_i hne
    rw [Option.or_eq_some_iff, find?_exactCandidates_eq_some_iff,
      find?_exactCandidates_eq_none_iff, findSome?_single_iff hpaths]
    exact ⟨fun h => ⟨hne, h⟩, And.right⟩

theorem mem_of_storedFor (h : storedFor paths minLength path = some f) : f ∈ paths := by
  unfold storedFor at h
  dsimp only at h
  split at h
  · cases h
  · rcases Option.or_eq_some_iff.mp h with h | ⟨-, h⟩
    · simpa using List.find?_some h
    · obtain ⟨s, -, hs⟩ := List.exists_of_findSome?_eq_some h
      have hmem : f ∈ paths.filter (endsAt s) := by simp [single?_eq_some_iff.mp hs]
      exact (List.mem_filter.mp hmem).1

theorem isSegmentSuffix_of_mem_exactCandidates (h : f ∈ exactCandidates path) :
    IsSegmentSuffix f.toList path.toList := by
  obtain ⟨g, hg⟩ := Option.isSome_iff_exists.mp
    (List.find?_isSome.mpr ⟨f, h, beq_self_eq_true f⟩)
  obtain rfl : f = g := by simpa using List.find?_some hg
  rw [find?_exactCandidates] at hg
  exact isSegmentSuffix_of_mem_forms (List.mem_of_find?_eq_some hg)

theorem isWritable_of_isSegmentSuffix {s path : List Char} (h : IsSegmentSuffix s path)
    (hpath : IsWritable path) : IsWritable s := by
  rcases h with rfl | h
  · exact hpath
  · exact fun c hc => hpath c (h.suffix.mem hc)

theorem map_file_of_filter {rows : List Row}
    (h : ∀ row ∈ rows, Row.get row "file" = .null ∨ ∃ path, Row.get row "file" = .text path) :
    (rows.filter fun row => (Row.get row "file").asText?.any (endsAt s)).map
        (fun row => (Row.get row "file").toJson) =
      ((rows.filterMap fun row => (Row.get row "file").text?).filter (endsAt s)).map Json.text := by
  induction rows with
  | nil => rfl
  | cons row rows ih =>
    obtain ⟨hrow, hrows⟩ := List.forall_mem_cons.mp h
    have hrest := ih hrows
    rcases hrow with hnull | ⟨path, hpath⟩
    · have hshown : (Row.get row "file").asText? = none := by rw [hnull]; rfl
      have htext : (Row.get row "file").text? = none := by rw [hnull]; rfl
      simpa [hshown, htext] using hrest
    · have hshown : (Row.get row "file").asText? = some path := by rw [hpath]; rfl
      have htext : (Row.get row "file").text? = some path := by rw [hpath]; rfl
      have hjson : (Row.get row "file").toJson = .text path := by rw [hpath]; rfl
      cases hends : endsAt s path <;> simpa [hshown, htext, hjson, hends] using hrest

variable [Engine] {source : Source}

theorem gives_firstStored {isStored : String → Access Bool} {stored : String → Bool}
    {candidates : List String}
    (h : ∀ c ∈ candidates, Access.Gives source (isStored c) (.ok (stored c))) :
    Access.Gives source (firstStored isStored candidates) (.ok (candidates.find? stored)) := by
  induction candidates with
  | nil => exact .pure none
  | cons c cs ih =>
    obtain ⟨hc, hcs⟩ := List.forall_mem_cons.mp h
    rw [List.find?_cons]
    refine hc.bind ?_
    cases stored c with
    | true => exact .pure (some c)
    | false => exact ih hcs

theorem gives_firstUnique {find : String → Nat → Access (List α)} {found : String → List α}
    {suffixes : List String}
    (h : ∀ s ∈ suffixes, Access.Gives source (find s matchCap) (.ok (found s))) :
    Access.Gives source (firstUnique find suffixes)
      (.ok (suffixes.findSome? fun s => single? (found s))) := by
  induction suffixes with
  | nil => exact .pure none
  | cons s ss ih =>
    obtain ⟨hs, hss⟩ := List.forall_mem_cons.mp h
    rw [List.findSome?_cons]
    refine hs.bind ?_
    rcases found s with _ | ⟨a, _ | ⟨b, rest⟩⟩
    · exact ih hss
    · exact .pure (some a)
    · exact ih hss

theorem single?_ending {t : Table} (h : HasSources source t) (s : String) :
    single? ((t.ending s).take matchCap) =
      (single? (t.paths.filter (endsAt s))).map Json.text := by
  have hrows (row : Row) (hrow : row ∈ t.named) :
      Row.get row "file" = .null ∨ ∃ path, Row.get row "file" = .text path :=
    (h.paths row hrow).imp_right fun ⟨path, hpath, _⟩ => ⟨path, hpath⟩
  have hperm := (List.mergeSort_perm
    (t.named.filter fun row => (Row.get row "file").asText?.any (endsAt s))
    (orderedBy ["file"])).map fun row => (Row.get row "file").toJson
  rw [single?_take, Table.ending, sortBy, single?_of_perm hperm, map_file_of_filter hrows,
    single?_map, Table.paths]

theorem gives_resolve {t : Table} (h : HasSources source t) (minLength : Int)
    (hpath : IsWritable (normalize path).toList) :
    Access.Gives source
      (resolve Json.text (fun f => Sources.contains (.text f))
        (fun suffix cap => Sources.withSuffix (.text suffix) (.int cap)) minLength path)
      (.ok ((storedFor t.paths minLength path).map Json.text)) := by
  unfold resolve storedFor
  dsimp only
  generalize normalize path = p at hpath
  by_cases hp : p = ""
  · rw [if_pos hp, hp]
    exact .pure none
  · have hempty : ¬p.isEmpty = true := by simpa using hp
    rw [if_neg hp, if_neg hempty]
    have hstored := gives_firstStored fun c hc => h.gives_contains
      (isWritable_of_isSegmentSuffix (isSegmentSuffix_of_mem_exactCandidates hc) hpath)
    refine hstored.bind ?_
    cases (exactCandidates p).find? t.paths.contains with
    | some f => exact .pure (some (Json.text f))
    | none =>
      have hunique : Access.Gives source
          (firstUnique (fun suffix cap => Sources.withSuffix (.text suffix) (.int cap))
            (suffixCandidates minLength p)) (.ok ((suffixCandidates minLength p).findSome?
              fun s => single? ((t.ending s).take matchCap))) :=
        gives_firstUnique fun s hs => h.gives_withSuffix
          (isWritable_of_isSegmentSuffix (mem_suffixCandidates.mp hs).1 hpath)
      simp only [single?_ending h] at hunique
      rw [Option.none_or, List.map_findSome?]
      exact hunique

end CallAtlas.Resolve
