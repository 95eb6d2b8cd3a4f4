import CallAtlas.Proofs.Sorting
import CallAtlas.Proofs.Store.Caches
import CallAtlas.Store.Statement

/-! What the small engine leaves behind on a connection: temporary tables, and nothing else. The
queries that stores are delivered with leave none, and neither do scans. -/
namespace CallAtlas.Store

variable {source : Source} {name : String}

namespace Statement

variable {db : Database} {text : String} {binding : Binding} {s : Statement} {more : List Token}

theorem exists_of_execute {rows : List Row} {table? : Option (String × Table)}
    (htext : ofText text = .ok (s, more)) (h : execute db text binding = .ok (rows, table?)) :
    ∃ values, table? = s.made? values := by
  unfold execute at h
  rw [htext] at h
  obtain ⟨_, -, h⟩ := Except.bind_eq_ok (x := s.prepare db) h
  split at h
  · contradiction
  · obtain ⟨values, -, h⟩ := Except.bind_eq_ok (x := s.valuesOf binding) h
    obtain ⟨_, -, h⟩ := Except.bind_eq_ok (x := s.run db values) h
    exact ⟨values, (congrArg Prod.snd (Except.ok.inj h)).symm⟩

theorem execute_of_ofText {values : Values} {rows : List Row} (htext : ofText text = .ok (s, []))
    (hprepared : s.prepare db = .ok ()) (hvalues : s.valuesOf binding = .ok values)
    (hrows : s.run db values = .ok rows) :
    execute db text binding = .ok (rows, s.made? values) := by
  simp [execute, htext, hprepared, hvalues, hrows, bind, Except.bind, pure, Except.pure]

theorem engine_execute_of_ok {made : List (String × Table)} {rows : List Row}
    {table? : Option (String × Table)}
    (h : execute { db with temporary := made ++ db.temporary } text binding =
      .ok (rows, table?)) :
    engine.execute made db text binding = (.ok rows, made ++ table?.toList) := by
  unfold engine
  dsimp only
  rw [h]

theorem engine_execute_of_error {made : List (String × Table)} {e : Failure}
    (h : execute { db with temporary := made ++ db.temporary } text binding = .error e) :
    engine.execute made db text binding = (.error e, made) := by
  unfold engine
  dsimp only
  rw [h]

theorem connection_of_execute (htext : ofText text = .ok (s, more))
    (hs : ∀ values, s.made? values = none) (connection : List (String × Table)) :
    (engine.execute connection db text binding).2 = connection := by
  cases hrun : execute { db with temporary := connection ++ db.temporary } text binding with
  | error e => rw [engine_execute_of_error hrun]
  | ok result =>
    obtain ⟨values, hmade⟩ := exists_of_execute htext hrun
    rw [engine_execute_of_ok hrun, hmade, hs, Option.toList_none, List.append_nil]

theorem made?_of_mem_known {entry : String × Statement} (h : entry ∈ known) (values : Values) :
    entry.2.made? values = none := by
  have hstatement : entry.2 ∈ known.map (·.2) := List.mem_map_of_mem h
  simp only [known, List.map_cons, List.map_nil, List.mem_cons, List.not_mem_nil,
    or_false] at hstatement
  rcases hstatement with h | h | h | h | h | h | h | h | h | h <;> (rw [h]; rfl)

theorem ofText_of_known (h : text ∈ known.map (·.1)) :
    ∃ s, ofText text = .ok (s, []) ∧ ∀ values, s.made? values = none := by
  have hsome : (known.find? (·.1 == text)).isSome := by
    obtain ⟨entry, hentry, hsame⟩ := List.mem_map.mp h
    exact List.find?_isSome.mpr ⟨entry, hentry, beq_iff_eq.mpr hsame⟩
  obtain ⟨entry, hentry⟩ := Option.isSome_iff_exists.mp hsome
  have hread : ofText text = .ok (entry.2, []) := by
    unfold ofText
    simp only [hentry]
    rfl
  exact ⟨entry.2, hread, made?_of_mem_known (List.mem_of_find?_eq_some hentry)⟩

end Statement

theorem leavesNoTrace_of_reads
    (h : ∀ text, (Registry.textOf (.text name)).fresh source = .ok text →
      ∃ s more, Statement.ofText text = .ok (s, more) ∧ ∀ values, s.made? values = none) :
    source.LeavesNoTrace name := by
  intro text db binding htext _
  obtain ⟨s, more, hreads, hmakes⟩ := h text htext
  exact Statement.connection_of_execute hreads hmakes _

theorem Registry.fresh_execute_of_ofText {db : Database} {text : String} {s : Statement}
    {params : Json} {binding : Binding} {values : Statement.Values} {rows : List Row}
    (hdb : source.backing = .tables db)
    (htext : (Registry.textOf (.text name)).fresh source = .ok text)
    (hread : Statement.ofText text = .ok (s, []))
    (hbinding : (Query.compile (.text name) text).bind params = .ok binding)
    (hprepared : s.prepare db = .ok ()) (hvalues : s.valuesOf binding = .ok values)
    (hrows : s.run db values = .ok rows) :
    (Registry.execute (.text name) params).fresh source = .ok rows := by
  have hrun : Statement.engine.execute [] db text binding = (.ok rows, (s.made? values).toList) :=
    Statement.engine_execute_of_ok (Statement.execute_of_ofText hread hprepared hvalues hrows)
  exact (fresh_execute htext hbinding hdb).trans (congrArg Prod.fst hrun)

theorem of_fresh_lookup {relation : String} {needed : List String} {column : String} {value : Json}
    {rows : List Row} (h : (lookup relation needed column value).fresh source = .ok rows) :
    ∃ db t, source.backing = .tables db ∧ db.relation relation = .ok t ∧
      ∀ row ∈ rows, row ∈ t.named := by
  have hrun : (lookup relation needed column value).run source {} =
      (.ok rows, ((lookup relation needed column value).run source {}).2) := Prod.ext h rfl
  obtain ⟨db, cache, -, hdb, hrun⟩ := Access.steady_database.of_bind (.empty source) hrun
  rw [Access.fresh_database] at hdb
  rw [Access.run_lift] at hrun
  obtain ⟨t, ht, hrun⟩ := Except.bind_eq_ok (congrArg Prod.fst hrun)
  obtain ⟨_, -, hrun⟩ := Except.bind_eq_ok hrun
  obtain ⟨_, -, hrun⟩ := Except.bind_eq_ok hrun
  obtain ⟨_, -, hrun⟩ := Except.bind_eq_ok hrun
  obtain ⟨_, -, hrun⟩ := Except.bind_eq_ok hrun
  obtain rfl := Except.ok.inj hrun
  exact ⟨db, t, Access.backing_of_stored hdb, ht, fun row hrow => (List.mem_filter.mp hrow).1⟩

theorem Registry.exists_row_of_textOf {text : String}
    (h : (Registry.textOf (.text name)).fresh source = .ok text) :
    ∃ db t row, source.backing = .tables db ∧ db.relation "queries" = .ok t ∧ row ∈ t.named ∧
      Row.get row "sql" = .text text := by
  have hrun : (Registry.textOf (.text name)).run source {} =
      (.ok text, ((Registry.textOf (.text name)).run source {}).2) := Prod.ext h rfl
  obtain ⟨rows, cache, -, hrows, hrun⟩ := (steady_lookup _ _ _ _).of_bind (.empty source) hrun
  obtain ⟨db, t, hdb, ht, hmem⟩ := of_fresh_lookup hrows
  cases rows with
  | nil => exact nomatch congrArg Prod.fst hrun
  | cons row rows =>
    refine ⟨db, t, row, hdb, ht, hmem row List.mem_cons_self, ?_⟩
    dsimp only [List.head?_cons, Option.map_some, Option.getD_some] at hrun
    split at hrun
    · exact nomatch congrArg Prod.fst hrun
    · cases hsql : Row.get row "sql" with
      | text s =>
        rw [hsql] at hrun
        exact congrArg Cell.text (Except.ok.inj (congrArg Prod.fst hrun))
      | null | int | real =>
        rw [hsql] at hrun
        exact nomatch congrArg Prod.fst hrun

/-- A store that has only delivered queries is met in every session as it was left. -/
theorem leavesNoTrace_of_known (h : ∀ db t, source.backing = .tables db →
    db.relation "queries" = .ok t → ∀ row ∈ t.named, ∀ text, Row.get row "sql" = .text text →
      text ∈ Statement.known.map (·.1)) : source.LeavesNoTrace name := by
  refine leavesNoTrace_of_reads fun text htext => ?_
  obtain ⟨db, t, row, hdb, ht, hrow, hsql⟩ := Registry.exists_row_of_textOf htext
  obtain ⟨s, hs, hmakes⟩ := Statement.ofText_of_known (h db t hdb ht row hrow text hsql)
  exact ⟨s, [], hs, hmakes⟩

namespace Sample

def near : String :=
  "SELECT * FROM near WHERE of=:function_id"

def all : String :=
  "SELECT * FROM symbols"

def tables : Database :=
  let columns (names : List String) : List Column := names.map fun name => { name }
  { tables := [
      ("dashboard_function_detail",
        ⟨columns ["function_id", "name", "file"],
          [[.text "e", .text "Each", .text "each.go"],
            [.text "f", .text "Fold", .text "fold.go"]]⟩),
      ("near",
        ⟨columns ["of", "id", "name", "file", "direction"],
          [[.text "e", .text "f", .text "Fold", .text "fold.go", .text "callee"],
            [.text "f", .text "g", .text "Grow", .text "grow.go", .text "callee"]]⟩),
      ("symbols",
        ⟨columns ["name", "kind"],
          [[.text "Fold", .text "function"], [.text "Form", .text "type"]]⟩),
      ("queries",
        ⟨columns ["name", "sql"],
          [[.text "function_neighborhood", .text near], [.text "call_chain", .text near],
            [.text "callers_of", .text near], [.text "symbol_search", .text all]]⟩)]
    hasDetailView := false }

end Sample

def sample : Source where
  path := "sample.db"
  backing := .tables Sample.tables

namespace Sample

theorem ofText_near :
    Statement.ofText near = .ok (.scan "near" (some ("of", ⟨':', "function_id"⟩)), []) := by
  with_unfolding_all rfl

theorem ofText_all : Statement.ofText all = .ok (.scan "symbols" none, []) := by
  with_unfolding_all rfl

theorem textOf_explorations : ∀ name ∈ Service.explorations,
    (Registry.textOf (.text name)).fresh sample = .ok near := by
  refine Service.forall_mem_explorations.mpr ⟨?_, ?_, ?_⟩ <;> with_unfolding_all rfl

theorem textOf_search : (Registry.textOf (.text "symbol_search")).fresh sample = .ok all := by
  with_unfolding_all rfl

theorem textOf_paths :
    ((Registry.textOf (.text "call_chain_pathfinder")).fresh sample).toOption = none := by
  with_unfolding_all rfl

end Sample

theorem leavesNoTrace_sample : ∀ name ∈ Service.queries, sample.LeavesNoTrace name := by
  refine Service.forall_mem_queries.mpr ⟨?_, fun name hname => ?_, ?_⟩ <;>
    refine leavesNoTrace_of_reads fun text htext => ?_
  · obtain rfl := Except.ok.inj (Sample.textOf_search.symm.trans htext)
    exact ⟨_, _, Sample.ofText_all, fun _ => rfl⟩
  · obtain rfl := Except.ok.inj ((Sample.textOf_explorations name hname).symm.trans htext)
    exact ⟨_, _, Sample.ofText_near, fun _ => rfl⟩
  · have hpaths := Sample.textOf_paths
    rw [htext] at hpaths
    contradiction

end CallAtlas.Store

namespace CallAtlas.Service

open Store

def fold : Row :=
  [("function_id", .text "f"), ("name", .text "Fold"), ("file", .text "fold.go")]

def grow : Row :=
  [("of", .text "f"), ("id", .text "g"), ("name", .text "Grow"), ("file", .text "grow.go"),
    ("direction", .text "callee")]

theorem gives_functionDetail_sample :
    Access.Gives sample (functionDetail (.text " f")) (.ok fold.toFields) := by
  have hid : requireParam (.text " f") "functionId" = .ok "f" := by
    with_unfolding_all rfl
  have hrows : (lookup detailView [] "function_id" (.text "f")).fresh sample = .ok [fold] := by
    with_unfolding_all rfl
  exact gives_functionDetail hid hrows

theorem leavesNoTrace_exploration : ∀ name ∈ explorations, sample.LeavesNoTrace name :=
  (forall_mem_queries.mp leavesNoTrace_sample).2.1

theorem gives_traverse_sample {query id : String} (hquery : query ∈ explorations)
    (hid : requireParam (.text id) "functionId" = .ok "f") :
    Access.Gives sample (traverse query (.text id)) (.ok ⟨"f", [grow.toFields]⟩) := by
  have hparameters : Query.placeholders Sample.near = ["function_id"] := by
    with_unfolding_all rfl
  have hbinding : (Query.compile (.text query) Sample.near).bind
      (.object [("function_id", .text "f")]) = .ok (.named [("function_id", .text "f")]) := by
    rw [Query.bind, Query.bindNamed, Query.compile, hparameters]
    rfl
  have hvalues : (Statement.scan "near" (some ("of", ⟨':', "function_id"⟩))).valuesOf
      (.named [("function_id", .text "f")]) = .ok [(⟨':', "function_id"⟩, .text "f")] := by
    with_unfolding_all rfl
  have hrows : (Registry.execute (.text query) (.object [("function_id", .text "f")])).fresh
      sample = .ok [grow] :=
    Registry.fresh_execute_of_ofText rfl (Sample.textOf_explorations query hquery)
      Sample.ofText_near hbinding (by with_unfolding_all rfl) hvalues
      (by with_unfolding_all rfl)
  exact gives_traverse (leavesNoTrace_exploration query hquery) hid hrows

end CallAtlas.Service
