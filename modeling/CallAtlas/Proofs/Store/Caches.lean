import CallAtlas.Proofs.Store.Access
import CallAtlas.Service

/-! What is cached does not show. From any cache that agrees with the store an operation gives what
it gives from an empty one, and it leaves such a cache. -/
namespace CallAtlas.Service

/-- The queries that are run for what a service is asked for. -/
def queries : List String :=
  ["symbol_search", "function_neighborhood", "call_chain", "callers_of", "call_chain_pathfinder"]

def explorations : List String :=
  ["function_neighborhood", "call_chain", "callers_of"]

theorem forall_mem_explorations {p : String → Prop} :
    (∀ name ∈ explorations, p name) ↔
      p "function_neighborhood" ∧ p "call_chain" ∧ p "callers_of" := by
  simp [explorations]

theorem forall_mem_queries {p : String → Prop} :
    (∀ name ∈ queries, p name) ↔
      p "symbol_search" ∧ (∀ name ∈ explorations, p name) ∧ p "call_chain_pathfinder" := by
  simp [queries, explorations, and_assoc]

end CallAtlas.Service

namespace CallAtlas.Store

variable [Engine] {α β : Type} {source : Source}

/-- What an operation gives where nothing has been asked before. -/
def Access.fresh (operation : Access α) (source : Source) : Except Failure α :=
  (operation.run source {}).1

/-- All that a cache holds is what the store would give again, and nothing that was run has left
anything behind on the connection. -/
structure Cache.Faithful (source : Source) (cache : Cache) : Prop where
  connected : cache.connected = true → Access.connect.fresh source = .ok ()
  connection : cache.connection = Engine.opened
  compiled : ∀ q ∈ cache.compiled, ∃ text,
    (Registry.textOf q.name).fresh source = .ok text ∧ q = Query.compile q.name text
  browser : ∀ b, cache.browser = some b → Service.browser.fresh source = .ok b

theorem Cache.Faithful.empty (source : Source) : Cache.Faithful source {} where
  connected := by simp
  connection := rfl
  compiled := by simp
  browser := by simp

def Access.Steady (source : Source) (operation : Access α) : Prop :=
  ∀ cache : Cache, cache.Faithful source →
    (operation.run source cache).1 = operation.fresh source ∧
      (operation.run source cache).2.Faithful source

namespace Access

@[simp] theorem fresh_lift (x : Except Failure α) : (lift x).fresh source = x := by
  rw [fresh, run_lift]

namespace Steady

theorem pure (a : α) : Steady source (Pure.pure a : Access α) :=
  fun _ hcache => ⟨rfl, hcache⟩

theorem throw (e : Failure) : Steady source (MonadExcept.throw e : Access α) :=
  fun _ hcache => ⟨rfl, hcache⟩

theorem read : Steady source (MonadReader.read : Access Source) :=
  fun _ hcache => ⟨rfl, hcache⟩

theorem lift (x : Except Failure α) : Steady source (Access.lift x) := by
  intro cache hcache
  rw [run_lift, fresh_lift]
  exact ⟨rfl, hcache⟩

theorem run_eq {x : Access α} (h : Steady source x) {cache : Cache}
    (hcache : cache.Faithful source) :
    ∃ cache', cache'.Faithful source ∧ x.run source cache = (x.fresh source, cache') := by
  obtain ⟨hresult, hfaithful⟩ := h cache hcache
  exact ⟨_, hfaithful, Prod.ext hresult rfl⟩

theorem fresh_bind {x : Access α} {f : α → Access β} (hx : Steady source x)
    (hf : ∀ a, x.fresh source = .ok a → Steady source (f a)) :
    (x >>= f).fresh source = x.fresh source >>= fun a => (f a).fresh source := by
  obtain ⟨cache, hcache, hrun⟩ := hx.run_eq (.empty source)
  rw [fresh]
  cases hfresh : x.fresh source with
  | error e =>
    rw [hfresh] at hrun
    rw [run_bind_of_error hrun]
    rfl
  | ok a =>
    rw [hfresh] at hrun
    rw [run_bind_of_ok hrun]
    exact (hf a hfresh cache hcache).1

theorem bind {x : Access α} {f : α → Access β} (hx : Steady source x)
    (hf : ∀ a, x.fresh source = .ok a → Steady source (f a)) : Steady source (x >>= f) := by
  intro cache hcache
  obtain ⟨cache', hcache', hrun⟩ := hx.run_eq hcache
  rw [fresh_bind hx hf]
  cases hfresh : x.fresh source with
  | error e =>
    rw [hfresh] at hrun
    rw [run_bind_of_error hrun]
    exact ⟨rfl, hcache'⟩
  | ok a =>
    rw [hfresh] at hrun
    rw [run_bind_of_ok hrun]
    exact hf a hfresh cache' hcache'

theorem of_bind {x : Access α} {f : α → Access β} (hx : Steady source x) {cache cache'' : Cache}
    (hcache : cache.Faithful source) {b : β}
    (h : (x >>= f).run source cache = (.ok b, cache'')) :
    ∃ a cache', cache'.Faithful source ∧ x.fresh source = .ok a ∧
      (f a).run source cache' = (.ok b, cache'') := by
  obtain ⟨cache', hcache', hrun⟩ := hx.run_eq hcache
  cases ha : x.fresh source with
  | error e =>
    rw [ha] at hrun
    rw [run_bind_of_error hrun] at h
    cases h
  | ok a =>
    rw [ha] at hrun
    rw [run_bind_of_ok hrun] at h
    exact ⟨a, cache', hcache', rfl, h⟩

end Steady

def Gives (source : Source) (operation : Access α) (result : Except Failure α) : Prop :=
  ∀ cache : Cache, cache.Faithful source →
    ∃ cache', cache'.Faithful source ∧ operation.run source cache = (result, cache')

namespace Gives

theorem pure (a : α) : Gives source (Pure.pure a : Access α) (.ok a) :=
  fun cache hcache => ⟨cache, hcache, rfl⟩

theorem throw (e : Failure) : Gives source (MonadExcept.throw e : Access α) (.error e) :=
  fun cache hcache => ⟨cache, hcache, rfl⟩

theorem lift (x : Except Failure α) : Gives source (Access.lift x) x :=
  fun cache hcache => ⟨cache, hcache, run_lift x⟩

theorem of_eq {x result : Except Failure α} (h : x = result) :
    Gives source (Access.lift x) result :=
  h ▸ lift x

theorem fresh_eq {x : Access α} {result : Except Failure α} (h : Gives source x result) :
    x.fresh source = result := by
  obtain ⟨_, -, hrun⟩ := h {} (.empty source)
  exact congrArg Prod.fst hrun

theorem of_steady {x : Access α} (h : Steady source x) : Gives source x (x.fresh source) :=
  fun _ hcache => h.run_eq hcache

theorem bind {x : Access α} {f : α → Access β} {a : α} {result : Except Failure β}
    (hx : Gives source x (.ok a)) (hf : Gives source (f a) result) :
    Gives source (x >>= f) result := by
  intro cache hcache
  obtain ⟨cache', hcache', hrun⟩ := hx cache hcache
  rw [run_bind_of_ok hrun]
  exact hf cache' hcache'

theorem bind_error {x : Access α} {e : Failure} (hx : Gives source x (.error e))
    (f : α → Access β) : Gives source (x >>= f) (.error e) := by
  intro cache hcache
  obtain ⟨cache', hcache', hrun⟩ := hx cache hcache
  exact ⟨cache', hcache', run_bind_of_error hrun f⟩

end Gives

theorem run_connect (source : Source) (cache : Cache) :
    connect.run source cache =
      if cache.connected then (.ok (), cache)
      else match connect.fresh source with
        | .ok _ => (.ok (), { cache with connected := true, connection := Engine.opened })
        | .error e => (.error e, cache) := by
  unfold connect
  cases hconnected : cache.connected with
  | true => simp [run_bind, hconnected]
  | false =>
    simp only [run_bind, run_get, hconnected, fresh]
    cases hbacking : source.backing <;> simp [run_bind, hbacking]

theorem steady_connect : Steady source connect := by
  intro cache hcache
  rw [run_connect]
  split
  · rename_i hconnected
    exact ⟨(hcache.connected hconnected).symm, hcache⟩
  · split
    · rename_i hopens
      exact ⟨hopens.symm, fun _ => hopens, rfl, hcache.compiled, hcache.browser⟩
    · rename_i hfails
      exact ⟨hfails.symm, hcache⟩

theorem steady_stored : Steady source stored := by
  refine steady_connect.bind fun _ _ => Steady.read.bind fun s _ => ?_
  split
  · exact .pure _
  · exact .throw _

theorem backing_of_stored {db : Database} (h : stored.fresh source = .ok db) :
    source.backing = .tables db := by
  unfold fresh stored at h
  rw [run_bind, run_connect] at h
  cases hopens : connect.fresh source with
  | error e => simp [hopens] at h
  | ok _ =>
    simp only [hopens, Bool.false_eq_true, if_false, run_bind, run_read] at h
    cases hbacking : source.backing with
    | tables db' =>
      rw [hbacking] at h
      exact congrArg _ (Except.ok.inj h)
    | _ => simp [hbacking] at h

theorem fresh_connect_of_tables {db : Database} (h : source.backing = .tables db) :
    connect.fresh source = .ok () := by
  simp [fresh, connect, run_bind, h]

theorem fresh_stored_of_tables {db : Database} (h : source.backing = .tables db) :
    stored.fresh source = .ok db := by
  simp [fresh, stored, connect, run_bind, h]

theorem run_database {cache : Cache} (hcache : cache.Faithful source) :
    database.run source cache = stored.run source cache := by
  obtain ⟨cache', hcache', hrun⟩ := steady_stored.run_eq hcache
  unfold database
  rw [run_bind, hrun]
  cases stored.fresh source with
  | error e => rfl
  | ok db =>
    dsimp only
    rw [run_bind, run_get]
    dsimp only
    rw [hcache'.connection, Engine.seen_opened, run_pure]

theorem fresh_database : database.fresh source = stored.fresh source := by
  rw [fresh, run_database (.empty source), fresh]

theorem steady_database : Steady source database := by
  intro cache hcache
  rw [run_database hcache, fresh_database]
  exact steady_stored cache hcache

end Access

theorem Access.steady_execute {text : String} {binding : Binding}
    (htext : ∀ db, source.backing = .tables db →
      (Engine.execute Engine.opened db text binding).2 = Engine.opened) :
    Steady source (execute text binding) := by
  intro cache hcache
  obtain ⟨first, hfirst, hrun⟩ := steady_stored.run_eq (.empty source)
  obtain ⟨later, hlater, hrun'⟩ := steady_stored.run_eq hcache
  unfold fresh execute
  rw [run_bind, run_bind, hrun, hrun']
  cases hstored : stored.fresh source with
  | error e => exact ⟨rfl, hlater⟩
  | ok db =>
    have htrace := htext db (backing_of_stored hstored)
    simp only [run_bind, run_get, run_modify, run_lift, hfirst.connection, hlater.connection]
    exact ⟨trivial, hlater.connected, htrace, hlater.compiled, hlater.browser⟩

theorem steady_lookup (relation : String) (needed : List String) (column : String) (value : Json) :
    Access.Steady source (lookup relation needed column value) :=
  Access.steady_database.bind fun _ _ => .lift _

namespace Registry

theorem steady_textOf (name : Json) : Access.Steady source (textOf name) := by
  refine (steady_lookup _ _ _ _).bind fun rows _ => ?_
  dsimp only
  split
  · exact (Access.Steady.throw _).bind fun _ h => by contradiction
  · split
    · exact .pure _
    · exact .throw _

theorem run_get (name : String) (cache : Cache) :
    (get (.text name)).run source cache =
      match cache.compiled.find? (·.name.same (.text name)) with
      | some q => (.ok q, cache)
      | none =>
        match (textOf (.text name)).run source cache with
        | (.ok text, cache') =>
          let q := Query.compile (.text name) text
          (.ok q, { cache' with compiled := cache'.compiled ++ [q] })
        | (.error e, cache') => (.error e, cache') := by
  unfold get
  simp only [Json.asKey, Access.run_bind, Access.run_lift, Access.run_get, pure, Except.pure]
  cases cache.compiled.find? (·.name.same (.text name)) with
  | some q => rfl
  | none =>
    simp only [Access.run_bind]
    rcases (textOf (.text name)).run source cache with ⟨_ | _, _⟩ <;> rfl

theorem fresh_get (name : String) :
    (get (.text name)).fresh source =
      (textOf (.text name)).fresh source >>= fun text => .ok (Query.compile (.text name) text) := by
  unfold Access.fresh
  rw [run_get]
  simp only [List.find?_nil]
  rcases (textOf (.text name)).run source {} with ⟨_ | _, _⟩ <;> rfl

theorem steady_get (name : String) : Access.Steady source (get (.text name)) := by
  intro cache hcache
  rw [run_get, fresh_get]
  split
  · rename_i q hq
    obtain ⟨text, htext, hcompiled⟩ := hcache.compiled q (List.mem_of_find?_eq_some hq)
    have hsame : q.name.same (.text name) = true := by simpa using List.find?_some hq
    have hname : q.name = .text name := Json.eq_text_of_same hsame
    rw [hname] at htext hcompiled
    rw [htext, hcompiled]
    exact ⟨rfl, hcache⟩
  · obtain ⟨cache', hcache', hrun⟩ := (steady_textOf (.text name)).run_eq hcache
    rw [hrun]
    cases htext : (textOf (.text name)).fresh source with
    | error e => exact ⟨rfl, hcache'⟩
    | ok text =>
      refine ⟨rfl, hcache'.connected, hcache'.connection, fun q hq => ?_, hcache'.browser⟩
      rcases List.mem_append.mp hq with hq | hq
      · exact hcache'.compiled q hq
      · obtain rfl := List.mem_singleton.mp hq
        exact ⟨text, htext, rfl⟩

end Registry

/-- A query leaves nothing behind on a connection: it makes no temporary table, changes no setting,
draws no random number and does not ask what time it is. What it answers then depends on nothing but
what is stored and the values that it is given. -/
def Source.LeavesNoTrace (source : Source) (name : String) : Prop :=
  ∀ text db binding, (Registry.textOf (.text name)).fresh source = .ok text →
    source.backing = .tables db → (Engine.execute Engine.opened db text binding).2 = Engine.opened

theorem Registry.steady_execute {name : String} (hquery : source.LeavesNoTrace name)
    (params : Json) : Access.Steady source (execute (.text name) params) := by
  refine (steady_get name).bind fun q hq => Access.steady_connect.bind fun _ _ =>
    (Access.Steady.lift _).bind fun binding _ => Access.steady_execute fun db hdb => ?_
  rw [fresh_get] at hq
  cases htext : (textOf (.text name)).fresh source with
  | error e =>
    rw [htext] at hq
    contradiction
  | ok text =>
    rw [htext] at hq
    rw [← Except.ok.inj hq]
    exact hquery text db binding htext hdb

theorem Registry.fresh_execute {name text : String} {params : Json} {binding : Binding}
    {db : Database} (htext : (textOf (.text name)).fresh source = .ok text)
    (hbinding : (Query.compile (.text name) text).bind params = .ok binding)
    (hdb : source.backing = .tables db) :
    (execute (.text name) params).fresh source =
      (Engine.execute Engine.opened db text binding).1 := by
  have hquery : (get (.text name)).fresh source = .ok (Query.compile (.text name) text) := by
    rw [fresh_get, htext]
    rfl
  obtain ⟨compiled, hcompiled, hget⟩ := (steady_get name).run_eq (.empty source)
  obtain ⟨connected, hconnected, hconnect⟩ := Access.steady_connect.run_eq hcompiled
  obtain ⟨cache, hcache, hstored⟩ := Access.steady_stored.run_eq hconnected
  rw [hquery] at hget
  rw [Access.fresh_connect_of_tables hdb] at hconnect
  rw [Access.fresh_stored_of_tables hdb] at hstored
  rw [Access.fresh, execute, Access.run_bind_of_ok hget, Access.run_bind_of_ok hconnect, hbinding,
    Access.run_bind_of_ok (Access.run_lift _), Access.execute, Access.run_bind_of_ok hstored]
  simp only [Access.run_bind, Access.run_get, Access.run_modify, Access.run_lift,
    hcache.connection]
  rfl

end CallAtlas.Store

namespace CallAtlas.Service

open Store

variable [Engine] {source : Source}

theorem steady_functionDetail (id : Json) : Access.Steady source (functionDetail id) := by
  refine (Access.Steady.lift _).bind fun id _ => ?_
  refine ((steady_lookup _ _ _ _).bind fun _ _ => .pure _).bind fun detail? _ => ?_
  split
  · exact .pure _
  · exact .throw _

theorem steady_traverse {query : String} (hquery : source.LeavesNoTrace query) (id : Json) :
    Access.Steady source (traverse query id) :=
  (Access.Steady.lift _).bind fun _ _ =>
    (Registry.steady_execute hquery _).bind fun _ _ => .pure _

theorem steady_explore (hqueries : ∀ name ∈ explorations, source.LeavesNoTrace name)
    (settings : Settings) (id budget : Json) :
    Access.Steady source (explore settings id budget) := by
  obtain ⟨hneighborhood, hcallees, hcallers⟩ := forall_mem_explorations.mp hqueries
  exact (steady_functionDetail _).bind fun _ _ =>
    (steady_traverse hneighborhood _).bind fun _ _ => (Access.Steady.lift _).bind fun _ _ =>
    (steady_traverse hcallees _).bind fun _ _ => (Access.Steady.lift _).bind fun _ _ =>
    (steady_traverse hcallers _).bind fun _ _ => (Access.Steady.lift _).bind fun _ _ => .lift _

theorem gives_functionDetail {id : Json} {trimmed : String} {row : Row} {rows : List Row}
    (hid : requireParam id "functionId" = .ok trimmed)
    (hrows : (lookup detailView [] "function_id" (.text trimmed)).fresh source =
      .ok (row :: rows)) :
    Access.Gives source (functionDetail id) (.ok row.toFields) := by
  have hfound : Access.Gives source (Functions.detail (.text trimmed)) (.ok (some row.toFields)) :=
    (hrows ▸ Access.Gives.of_steady (steady_lookup _ _ _ _)).bind (.pure _)
  exact (Access.Gives.of_eq hid).bind (hfound.bind (.pure _))

theorem gives_traverse {query : String} (hquery : source.LeavesNoTrace query) {id : Json}
    {trimmed : String} {rows : List Row} (hid : requireParam id "functionId" = .ok trimmed)
    (hrows : (Registry.execute (.text query)
      (.object [("function_id", .text trimmed)])).fresh source = .ok rows) :
    Access.Gives source (traverse query id) (.ok ⟨trimmed, rows.map Row.toFields⟩) :=
  (Access.Gives.of_eq hid).bind
    ((hrows ▸ Access.Gives.of_steady (Registry.steady_execute hquery _)).bind (.pure _))

theorem gives_explore {id : Json} {row : Fields} {n c r : Reached}
    (hrow : Access.Gives source (functionDetail id) (.ok row))
    (hn : Access.Gives source (neighborhood (.text (FunctionNode.idOf row))) (.ok n))
    (hc : Access.Gives source (callChain (.text (FunctionNode.idOf row))) (.ok c))
    (hr : Access.Gives source (callers (.text (FunctionNode.idOf row))) (.ok r))
    (settings : Settings) (budget : Json) :
    Access.Gives source (explore settings id budget) (do
      let neighbors ← n.toNodes none
      let callees ← c.toNodes (some .callee)
      let callers ← r.toNodes (some .caller)
      Graph.assemble? settings.options (budgetOf settings budget)
        { focal := .ofRow row, neighbors, callees, callers }) := by
  refine hrow.bind (hn.bind ?_)
  cases hneighbors : n.toNodes none with
  | error e => exact (Access.Gives.lift _).bind_error _
  | ok neighbors =>
    refine (Access.Gives.lift _).bind (hc.bind ?_)
    cases hcallees : c.toNodes (some .callee) with
    | error e => exact (Access.Gives.lift _).bind_error _
    | ok callees =>
      refine (Access.Gives.lift _).bind (hr.bind ?_)
      cases hcallers : r.toNodes (some .caller) with
      | error e => exact (Access.Gives.lift _).bind_error _
      | ok callers => exact (Access.Gives.lift _).bind (.lift _)

end CallAtlas.Service
