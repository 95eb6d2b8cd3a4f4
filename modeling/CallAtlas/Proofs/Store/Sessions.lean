import CallAtlas.Proofs.Store.Listing
import CallAtlas.Proofs.Store.Statement

/-! Sessions: one service is asked for one thing after the other, and its store may be closed and
looked at in between. Each answer is the one that a new service over the same store gives, unless a
query leaves something behind on the connection. -/
namespace CallAtlas.Store

variable [Engine] {α β : Type} {source : Source}

namespace Access

namespace Steady

theorem map {x : Access α} (hx : Steady source x) (f : α → β) : Steady source (f <$> x) := by
  rw [map_eq_pure_bind]
  exact hx.bind fun _ _ => .pure _

theorem tryCatch {x : Access α} {f : Failure → Access α} (hx : Steady source x)
    (hf : ∀ e, x.fresh source = .error e → Steady source (f e)) :
    Steady source (MonadExcept.tryCatch x f) := by
  intro cache hcache
  obtain ⟨cache₁, hcache₁, hfirst⟩ := hx.run_eq (.empty source)
  obtain ⟨cache₂, hcache₂, hlater⟩ := hx.run_eq hcache
  rw [fresh, run_tryCatch, run_tryCatch, hfirst, hlater]
  cases hfresh : x.fresh source with
  | ok a => exact ⟨rfl, hcache₂⟩
  | error e =>
    obtain ⟨hfirst, -⟩ := hf e hfresh cache₁ hcache₁
    obtain ⟨hlater, hfaithful⟩ := hf e hfresh cache₂ hcache₂
    exact ⟨hlater.trans hfirst.symm, hfaithful⟩

end Steady

theorem steady_close : Steady source close :=
  fun _ hcache => ⟨rfl, by simp [close], rfl, hcache.compiled, hcache.browser⟩

theorem steady_ping : Steady source ping := by
  refine Steady.read.bind fun s _ => ?_
  split
  · refine (Steady.tryCatch (steady_stored.bind fun db _ => .pure _) fun e _ => .pure _).bind
      fun early _ => ?_
    cases early with
    | error health => exact .pure _
    | ok health => exact .pure _
  · exact .pure _

end Access

namespace Registry

theorem steady_list (withText : Bool) : Access.Steady source (list withText) :=
  Access.steady_database.bind fun _ _ => .lift _

theorem steady_contains (name : Json) : Access.Steady source (contains name) := by
  unfold contains
  split
  · exact .pure _
  · cases name with
    | text s =>
      refine (Access.Steady.tryCatch (((steady_get s).map _).bind fun _ _ => .pure _)
        fun e _ => ?_).bind fun early _ => ?_
      · cases e with
        | queryUnknown name => exact .pure _
        | _ => exact (Access.Steady.throw _).bind fun _ _ => .pure _
      · cases early with
        | error known => exact .pure _
        | ok known => exact .pure _
    | _ => contradiction

end Registry

namespace Sources

theorem steady_get (file : Json) : Access.Steady source (get file) :=
  (steady_lookup _ _ _ _).bind fun _ _ => .pure _

theorem steady_contains (file : Json) : Access.Steady source (contains file) :=
  (steady_lookup _ _ _ _).bind fun _ _ => .pure _

theorem steady_withSuffix (suffix bound : Json) :
    Access.Steady source (withSuffix suffix bound) := by
  have hrows : Access.Steady source Access.database := Access.steady_database
  refine Access.steady_connect.bind fun _ _ => ?_
  cases suffix with
  | text _ | list _ | object _ => exact hrows.bind fun _ _ => .lift _
  | _ => exact (Access.Steady.throw _).bind fun _ _ => hrows.bind fun _ _ => .lift _

end Sources

theorem Functions.steady_inFile (file : Json) : Access.Steady source (inFile file) :=
  (steady_lookup _ _ _ _).bind fun _ _ => .pure _

end CallAtlas.Store

namespace CallAtlas.Resolve

open Store

variable [Engine] {α : Type} {source : Source} {isStored : String → Access Bool}
  {find : String → Nat → Access (List α)} (hstored : ∀ f, Access.Steady source (isStored f))
  (hfind : ∀ s n, Access.Steady source (find s n))

include hstored in
theorem steady_firstStored (candidates : List String) :
    Access.Steady source (firstStored isStored candidates) := by
  induction candidates with
  | nil => exact .pure _
  | cons c cs ih =>
    refine (hstored c).bind fun stored _ => ?_
    split
    · exact .pure _
    · exact ih

include hfind in
theorem steady_firstUnique (suffixes : List String) :
    Access.Steady source (firstUnique find suffixes) := by
  induction suffixes with
  | nil => exact .pure _
  | cons s ss ih =>
    refine (hfind s matchCap).bind fun found _ => ?_
    split
    · exact .pure _
    · exact ih

include hstored hfind in
theorem steady_resolve (ofPath : String → α) (minLength : Int) (path : String) :
    Access.Steady source (resolve ofPath isStored find minLength path) := by
  unfold resolve
  dsimp only
  split
  · exact .pure _
  · refine (steady_firstStored hstored _).bind fun stored? _ => ?_
    cases stored? with
    | some file => exact .pure _
    | none => exact steady_firstUnique hfind _

end CallAtlas.Resolve

namespace CallAtlas.Service

open Store

inductive Operation
  | listQueries (withText : Json)
  | search (q limit : Json)
  | functionDetail (functionId : Json)
  | source (functionId : Json)
  | file (path : Json)
  | fileFunctions (path : Json)
  | listDirectory (path : Json)
  | neighborhood (functionId : Json)
  | callChain (functionId : Json)
  | callers (functionId : Json)
  | paths (startId endId : Json)
  | explore (functionId budget : Json)
  | closeStore
  | pingStore
  | hasQuery (name : Json)

inductive Answer
  | payload (value : Json)
  | graph (g : Graph)
  | health (h : Health)
  | truth (b : Bool)
  | nothing

section Session

variable [Engine] {settings : Settings} {source : Source} {cache : Cache}

theorem steady_listQueries (withText : Json) : Access.Steady source (listQueries withText) :=
  (Registry.steady_list _).bind fun _ _ => .pure _

theorem steady_search (hquery : source.LeavesNoTrace "symbol_search") (q limit : Json) :
    Access.Steady source (search q limit) :=
  (Access.Steady.lift _).bind fun _ _ =>
    (Registry.steady_execute hquery _).bind fun _ _ => .pure _

theorem gives_search {q : Json} {trimmed : String} {rows : List Row}
    (hquery : source.LeavesNoTrace "symbol_search") (hq : requireParam q "q" = .ok trimmed)
    (hrows : (Registry.execute (.text "symbol_search")
      (.object [("pattern", .text ("%" ++ trimmed ++ "%"))])).fresh source = .ok rows)
    (limit : Json) :
    let functions := ((rows.map Row.toFields).filter fun row =>
      (row.get "kind").text? == some "function").take (Limit.ofJson limit)
    Access.Gives source (search q limit)
      (.ok (.object [("query", .text trimmed), ("count", .int functions.length),
        ("functions", .list (functions.map Json.object))])) :=
  (Access.Gives.of_eq hq).bind
    ((hrows ▸ Access.Gives.of_steady (Registry.steady_execute hquery _)).bind (.pure _))

theorem steady_needed (row : Fields) (name : String) : Access.Steady source (needed row name) := by
  unfold needed
  cases row.get? name with
  | some value => exact .pure _
  | none => exact .throw _

theorem steady_source (id : Json) : Access.Steady source (Service.source id) := by
  refine (steady_functionDetail _).bind fun detail _ => ?_
  refine (steady_needed detail _).bind fun path _ => ?_
  refine (Sources.steady_get _).bind fun file? _ => ?_
  cases file? with
  | none => exact .throw _
  | some file =>
    exact (steady_needed _ _).bind fun _ _ => (steady_needed _ _).bind fun _ _ =>
      (steady_needed _ _).bind fun _ _ => (steady_needed _ _).bind fun _ _ =>
      (steady_needed _ _).bind fun _ _ => .pure _

theorem steady_resolveFile (settings : Settings) (path : Json) :
    Access.Steady source (resolveFile settings path) := by
  refine (Access.Steady.lift _).bind fun requested _ => ?_
  refine (Resolve.steady_resolve (fun _ => Sources.steady_contains _)
    (fun _ _ => Sources.steady_withSuffix _ _) _ _ _).bind fun stored? _ => ?_
  cases stored? with
  | some stored => exact .pure _
  | none => exact .throw _

theorem steady_file (settings : Settings) (path : Json) :
    Access.Steady source (file settings path) := by
  refine (steady_resolveFile _ _).bind fun (requested, stored) _ => ?_
  refine (Sources.steady_get _).bind fun found? _ => ?_
  cases found? with
  | some found => exact .pure _
  | none => exact .throw _

theorem steady_fileFunctions (settings : Settings) (path : Json) :
    Access.Steady source (fileFunctions settings path) :=
  (steady_resolveFile _ _).bind fun _ _ => (Functions.steady_inFile _).bind fun _ _ => .pure _

theorem steady_paths (hquery : source.LeavesNoTrace "call_chain_pathfinder")
    (startId endId : Json) : Access.Steady source (paths startId endId) :=
  (Access.Steady.lift _).bind fun _ _ => (Access.Steady.lift _).bind fun _ _ =>
    (Registry.steady_execute hquery _).bind fun _ _ => .pure _

def Operation.perform (settings : Settings) : Operation → Access Answer
  | .listQueries withText => .payload <$> Service.listQueries withText
  | .search q limit => .payload <$> Service.search q limit
  | .functionDetail id => (.payload <| .object ·) <$> Service.functionDetail id
  | .source id => .payload <$> Service.source id
  | .file path => .payload <$> Service.file settings path
  | .fileFunctions path => .payload <$> Service.fileFunctions settings path
  | .listDirectory path => .payload <$> Service.listDirectory path
  | .neighborhood id => (.payload ·.toJson) <$> Service.neighborhood id
  | .callChain id => (.payload ·.toJson) <$> Service.callChain id
  | .callers id => (.payload ·.toJson) <$> Service.callers id
  | .paths start goal => .payload <$> Service.paths start goal
  | .explore id budget => .graph <$> Service.explore settings id budget
  | .closeStore => (fun _ => .nothing) <$> Access.close
  | .pingStore => .health <$> Access.ping
  | .hasQuery name => .truth <$> Registry.contains name

/-- What operations give, one after the other, each with the cache that those before it left. -/
def session (settings : Settings) (source : Source) :
    Cache → List Operation → List (Except Failure Answer)
  | _, [] => []
  | cache, op :: ops =>
    let (result, cache') := (op.perform settings).run source cache
    result :: session settings source cache' ops

theorem steady_perform (hqueries : ∀ name ∈ queries, source.LeavesNoTrace name)
    (op : Operation) : Access.Steady source (op.perform settings) := by
  obtain ⟨hsearch, hexplorations, hpaths⟩ := forall_mem_queries.mp hqueries
  obtain ⟨hneighborhood, hcallees, hcallers⟩ := forall_mem_explorations.mp hexplorations
  cases op with
  | listQueries withText => exact (steady_listQueries _).map _
  | search q limit => exact (steady_search hsearch _ _).map _
  | functionDetail id => exact (steady_functionDetail _).map _
  | source id => exact (steady_source _).map _
  | file path => exact (steady_file _ _).map _
  | fileFunctions path => exact (steady_fileFunctions _ _).map _
  | listDirectory path => exact (steady_listDirectory _).map _
  | neighborhood id => exact (steady_traverse hneighborhood _).map _
  | callChain id => exact (steady_traverse hcallees _).map _
  | callers id => exact (steady_traverse hcallers _).map _
  | paths start goal => exact (steady_paths hpaths _ _).map _
  | explore id budget => exact (steady_explore hexplorations _ _ _).map _
  | closeStore => exact Access.steady_close.map _
  | pingStore => exact Access.steady_ping.map _
  | hasQuery name => exact (Registry.steady_contains _).map _

theorem session_of_faithful (hqueries : ∀ name ∈ queries, source.LeavesNoTrace name)
    (hcache : cache.Faithful source) (ops : List Operation) :
    session settings source cache ops =
      ops.map fun op => (op.perform settings).fresh source := by
  induction ops generalizing cache with
  | nil => rfl
  | cons op ops ih =>
    obtain ⟨cache', hcache', hrun⟩ := (steady_perform hqueries op).run_eq hcache
    rw [session, hrun, List.map_cons]
    exact congrArg _ (ih hcache')

/-- Each operation of a session gives what it gives where nothing has been asked before, if the
queries in use leave nothing behind. -/
theorem session_as_if_first (settings : Settings) (source : Source)
    (hqueries : ∀ name ∈ queries, source.LeavesNoTrace name) (ops : List Operation) :
    session settings source {} ops = ops.map fun op => (op.perform settings).fresh source :=
  session_of_faithful hqueries (.empty source) ops

end Session

def foldSymbol : Row :=
  [("name", .text "Fold"), ("kind", .text "function")]

def formSymbol : Row :=
  [("name", .text "Form"), ("kind", .text "type")]

def found (query : String) : Json :=
  .object [("query", .text query), ("count", .int 1),
    ("functions", .list [.object foldSymbol.toFields])]

theorem gives_search_sample :
    Access.Gives sample (search (.text " Fo") .null) (.ok (found "Fo")) := by
  have hq : requireParam (.text " Fo") "q" = .ok "Fo" := by with_unfolding_all rfl
  have hparameters : Query.placeholders Sample.all = [] := by
    with_unfolding_all rfl
  have hbinding : (Query.compile (.text "symbol_search") Sample.all).bind
      (.object [("pattern", .text ("%" ++ "Fo" ++ "%"))]) = .ok (.named []) := by
    rw [Query.bind, Query.bindNamed, Query.compile, hparameters]
    rfl
  have hrows : (Registry.execute (.text "symbol_search")
      (.object [("pattern", .text ("%" ++ "Fo" ++ "%"))])).fresh sample =
        .ok [foldSymbol, formSymbol] :=
    Registry.fresh_execute_of_ofText rfl Sample.textOf_search Sample.ofText_all hbinding
      (by with_unfolding_all rfl) rfl (by with_unfolding_all rfl)
  have hgives := gives_search (forall_mem_queries.mp leavesNoTrace_sample).1 hq hrows .null
  have hfold : ((foldSymbol.toFields.get "kind").text? == some "function") = true := by
    with_unfolding_all rfl
  have hform : ((formSymbol.toFields.get "kind").text? == some "function") = false := by
    with_unfolding_all rfl
  simpa [hfold, hform, found, Limit.ofJson, Limit.standard] using hgives

theorem session_as_if_first_of_sample :
    session {} sample {} [.search (.text " Fo") .null, .search (.text "") .null, .closeStore,
        .search (.text " Fo") .null] =
      [.ok (.payload (found "Fo")), .error (.parameterRequired "q"), .ok .nothing,
        .ok (.payload (found "Fo"))] := by
  have hfound : ((Operation.search (.text " Fo") .null).perform {}).fresh sample =
      .ok (.payload (found "Fo")) := by
    rw [Operation.perform, map_eq_pure_bind]
    exact (gives_search_sample.bind (.pure (Answer.payload (found "Fo")))).fresh_eq
  rw [session_as_if_first {} sample leavesNoTrace_sample]
  simp only [List.map_cons, List.map_nil, hfound]
  rfl

def crafting : Source where
  path := "crafting.db"
  backing := .tables {
    tables := [("queries", ⟨[{ name := "name" }, { name := "sql" }],
      [[.text "symbol_search", .text "CREATE TEMP TABLE t AS SELECT 1 AS id"]]⟩)]
    hasDetailView := false }

/-- A search for the same finds the table of the one before it, and fails. -/
theorem search_fails_again :
    let ops : List Operation := [.search (.text "a") .null, .search (.text "a") .null]
    session {} crafting {} ops ≠ ops.map fun op => (op.perform {}).fresh crafting := by
  intro ops h
  have hsecond : (((session {} crafting {} ops)[1]?.map (·.toOption.isSome)),
      ((ops.map fun op => (op.perform {}).fresh crafting)[1]?.map (·.toOption.isSome))) =
        (some false, some true) := by
    decide +kernel
  rw [h, Prod.mk.injEq] at hsecond
  exact absurd (hsecond.1.symm.trans hsecond.2) (by decide)

end CallAtlas.Service
