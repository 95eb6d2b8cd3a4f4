import CallAtlas.Explorer.Served
import CallAtlas.Proofs.Client.Exchange
import CallAtlas.Proofs.Explorer.Alone
import CallAtlas.Proofs.Explorer.Origin
import CallAtlas.Proofs.Store.Statement

namespace CallAtlas.Explorer

open Http (Endpoint)
open Service (Reached fold grow gives_functionDetail_sample leavesNoTrace_exploration
  gives_traverse_sample)
open Store (Access Cache Engine Row Source sample)

section Replies

variable [Engine]

def IsSendable (id : String) : Prop :=
  Http.Location.checkQuery [("functionId", id)] = .ok ()

/-- Ids and rows get through unchanged when a function is explored over HTTP. -/
structure Lossless (source : Source) (id : String) : Prop where
  sent : IsSendable id
  found : ∀ row, (Service.functionDetail (.text id)).fresh source = .ok row →
    (Json.object row).finite = .object row ∧ IsSendable (FunctionNode.idOf row)
  reached : ∀ row, (Service.functionDetail (.text id)).fresh source = .ok row →
    ∀ traversal ∈ [Service.neighborhood, Service.callChain, Service.callers],
      ∀ r, (traversal (.text (FunctionNode.idOf row))).fresh source = .ok r →
        ∀ node ∈ r.nodes, (Json.object node).finite = .object node

/-- The replies of a server over a store, whatever else it has been asked before each of them. -/
def Server.IsOver (server : Server) (settings : Settings) (source : Source) : Prop :=
  ∀ c, ∃ cache : Cache, cache.Faithful source ∧
    server c = ((Client.ask settings c).run source cache).1

end Replies

theorem lists_reached {otherwise : Option Direction} {r : Reached} {nodes : List TraversalNode}
    (h : r.toNodes otherwise = .ok nodes) : Lists otherwise r.toJson nodes := by
  rw [Reached.toNodes, mapM_eq_ok_iff_forall₂] at h
  simp only [TraversalNode.ofRow_eq_ok_iff] at h
  exact ⟨_, r.nodes, rfl, Or.inl rfl, h⟩

section Calls

theorem unwritable?_eq_none {f : Fetch} {id : String}
    (hparams : f.call.request.params = [("functionId", id)]) (h : IsSendable id) :
    f.unwritable? = none := by
  rw [Fetch.unwritable?, hparams, h]

variable [Engine] {settings : Settings} {source : Source} {server : Server}

theorem Server.IsOver.reply (h : server.IsOver settings source) {c : Client.Call}
    (hsent : Http.Location.checkQuery c.request.params = .ok ()) {α : Type}
    {x : Access α} {f : α → Json}
    (hanswer : Http.answer settings c.request c.endpoint = f <$> x) (hx : x.Steady source) {a : α}
    (ha : x.fresh source = .ok a) : server c = .ok (f a).finite := by
  obtain ⟨cache, hcache, hreply⟩ := h c
  obtain ⟨cache', -, hrun⟩ := hx.run_eq hcache
  rw [ha] at hrun
  have hmap : (Http.answer settings c.request c.endpoint).run source cache =
      (.ok (f a), cache') := by
    rw [hanswer, map_eq_pure_bind, Access.run_bind_of_ok hrun]
    rfl
  rw [hreply, Client.run_ask_of_ok hsent hmap]

theorem Server.IsOver.reply_traverse (h : server.IsOver settings source) {c : Client.Call}
    (hsent : Http.Location.checkQuery c.request.params = .ok ())
    {query : String} (hquery : source.LeavesNoTrace query) {id : Json} {r : Reached}
    (hanswer : Http.answer settings c.request c.endpoint =
      Reached.toJson <$> Service.traverse query id)
    (hr : (Service.traverse query id).fresh source = .ok r)
    (hnodes : ∀ node ∈ r.nodes, (Json.object node).finite = .object node) :
    server c = .ok r.toJson := by
  rw [h.reply hsent hanswer (Service.steady_traverse hquery _) hr, finite_reached hnodes]

theorem exists_of_run_explore
    (hqueries : ∀ name ∈ Service.explorations, source.LeavesNoTrace name) {id : Json} {budget : Int}
    {cache cache' : Cache} {g : Graph} (hcache : cache.Faithful source)
    (h : (Service.explore settings id (.int budget)).run source cache = (.ok g, cache')) :
    ∃ row n c r, (Service.functionDetail id).fresh source = .ok row ∧
      (Service.neighborhood (.text (FunctionNode.idOf row))).fresh source = .ok n ∧
      (Service.callChain (.text (FunctionNode.idOf row))).fresh source = .ok c ∧
      (Service.callers (.text (FunctionNode.idOf row))).fresh source = .ok r ∧
      graphOf ⟨.whole budget, settings.options⟩ (.ofRow row) n.toJson c.toJson r.toJson =
        .ok g := by
  obtain ⟨hneighborhood, hcallChain, hcallersOf⟩ := Service.forall_mem_explorations.mp hqueries
  obtain ⟨row, cache₁, hcache₁, hrow, h⟩ := (Service.steady_functionDetail _).of_bind hcache h
  obtain ⟨n, cache₂, hcache₂, hn, h⟩ := (Service.steady_traverse hneighborhood _).of_bind hcache₁ h
  obtain ⟨around, cache₃, hcache₃, haround, h⟩ := (Access.Steady.lift _).of_bind hcache₂ h
  obtain ⟨c, cache₄, hcache₄, hc, h⟩ := (Service.steady_traverse hcallChain _).of_bind hcache₃ h
  obtain ⟨callees, cache₅, hcache₅, hcallees, h⟩ := (Access.Steady.lift _).of_bind hcache₄ h
  obtain ⟨r, cache₆, hcache₆, hr, h⟩ := (Service.steady_traverse hcallersOf _).of_bind hcache₅ h
  obtain ⟨callers, cache₇, -, hcallers, h⟩ := (Access.Steady.lift _).of_bind hcache₆ h
  rw [Access.fresh_lift] at haround hcallees hcallers
  rw [Access.run_lift] at h
  exact ⟨row, n, c, r, hrow, hn, hc, hr, graphOf_eq_ok_iff.mpr ⟨around, callees, callers,
    lists_reached haround, lists_reached hcallees, lists_reached hcallers, (Prod.mk.inj h).1⟩⟩

end Calls

/-- An explorer that looks a function up puts on display what the service explores for the same
function, budget and options, if no query of the store leaves a trace. It does not matter which of
the last three replies comes first, nor what service and server were asked before. -/
theorem displays_explored_graph [Engine] (settings serverSettings : Settings) (source : Source)
    (server : Server) (id : String) (budget : Int) (g : Graph) (cache cache' : Cache)
    (order : List Endpoint)
    (hqueries : ∀ name ∈ Service.explorations, source.LeavesNoTrace name)
    (hserver : server.IsOver serverSettings source) (hlossless : Lossless source id)
    (hcache : cache.Faithful source)
    (hexplore : (Service.explore settings (.text id) (.int budget)).run source cache =
      (.ok g, cache'))
    (horder : order.Perm [.neighborhood, .callChain, .callers]) :
    let setup : Setup := ⟨.whole budget, settings.options⟩
    let s := (.functionDetail :: order).foldl (State.receive setup server 0)
      (({} : State).respond setup (.exploreId (.text id)))
    ∃ t d, s.task? 0 = some t ∧ t.outcome = .published ∧ s.display = some d ∧ d.graph = g := by
  intro setup s
  obtain ⟨row, n, c, r, hrow, hn, hc, hr, hgraph⟩ := exists_of_run_explore hqueries hcache hexplore
  obtain ⟨hfinite, hsendable⟩ := hlossless.found row hrow
  let payload : Endpoint → Json
    | .functionDetail => .object row
    | .neighborhood => n.toJson
    | .callChain => c.toJson
    | .callers => r.toJson
    | _ => .null
  have haround : ∀ f ∈ graphFetches (.ofRow row), f.unwritable? = none :=
    forall_mem_graphFetches.mpr ⟨unwritable?_eq_none rfl hsendable,
      unwritable?_eq_none rfl hsendable, unwritable?_eq_none rfl hsendable⟩
  have hdetail : server (.functionDetail (.text id)) = .ok (.object row) := by
    rw [hserver.reply (c := .functionDetail (.text id)) hlossless.sent rfl
      (Service.steady_functionDetail _) hrow, hfinite]
  obtain ⟨hneighborhood, hcallChain, hcallersOf⟩ := Service.forall_mem_explorations.mp hqueries
  have hreply : ∀ f ∈ graphFetches (.ofRow row), server f.call = .ok (payload f.endpoint) :=
    forall_mem_graphFetches.mpr
      ⟨hserver.reply_traverse (c := .neighborhood (.text (FunctionNode.idOf row))) hsendable
          hneighborhood rfl hn (hlossless.reached row hrow _ (by simp) n hn),
        hserver.reply_traverse (c := .callChain (.text (FunctionNode.idOf row))) hsendable
          hcallChain rfl hc (hlossless.reached row hrow _ (by simp) c hc),
        hserver.reply_traverse (c := .callers (.text (FunctionNode.idOf row))) hsendable
          hcallersOf rfl hr (hlossless.reached row hrow _ (by simp) r hr)⟩
  obtain ⟨answered, hpublished⟩ : ∃ answered, s = published _ _ payload answered g :=
    exists_published (unwritable?_eq_none rfl hlossless.sent) haround hdetail rfl hreply hgraph
      horder
  rw [hpublished]
  exact ⟨_, _, rfl, rfl, rfl, rfl⟩

theorem lossless_sample : Lossless sample " f" := by
  have hrow {row : Fields} (h : (Service.functionDetail (.text " f")).fresh sample = .ok row) :
      row = fold.toFields :=
    (Except.ok.inj (gives_functionDetail_sample.fresh_eq.symm.trans h)).symm
  have hfocal : FunctionNode.idOf fold.toFields = "f" := by with_unfolding_all rfl
  refine ⟨by with_unfolding_all rfl, fun row h => ?_,
    fun row h traversal htraversal r hr => ?_⟩
  · obtain rfl := hrow h
    refine ⟨finite_toFields (by simp [fold, Store.Cell.toJson, Json.finite]), ?_⟩
    rw [hfocal]
    exact by with_unfolding_all rfl
  · obtain rfl := hrow h
    rw [hfocal] at hr
    have hreached : ∃ query ∈ Service.explorations, traversal = Service.traverse query := by
      simp only [List.mem_cons, List.not_mem_nil, or_false] at htraversal
      rcases htraversal with rfl | rfl | rfl <;> exact ⟨_, by simp [Service.explorations], rfl⟩
    obtain ⟨query, hquery, rfl⟩ := hreached
    obtain rfl := Except.ok.inj ((gives_traverse_sample hquery
      (by with_unfolding_all rfl)).fresh_eq.symm.trans hr)
    simp only [List.mem_singleton, forall_eq]
    exact finite_toFields (by simp [grow, Store.Cell.toJson, Json.finite])

theorem displays_explored_graph_of_sample :
    ∃ g d, (Service.explore {} (.text " f") (.int 5)).fresh sample = .ok g ∧
      g.nodes.map (fun n => (n.id, n.name.text?, n.file.text?, n.tags.toList)) =
        [("g", some "Grow", some "grow.go", [.callee, .direct]),
          ("f", some "Fold", some "fold.go", [.focus])] ∧
      ((.functionDetail :: [Endpoint.callers, .neighborhood, .callChain]).foldl
        (State.receive { budget := .whole 5 } (fun c => (Client.ask {} c).fresh sample) 0)
        (({} : State).respond { budget := .whole 5 } (.exploreId (.text " f")))).display = some d ∧
      d.graph = g := by
  have hfocal : FunctionNode.idOf fold.toFields = "f" := by with_unfolding_all rfl
  have hreached : ∀ query ∈ Service.explorations,
      Access.Gives sample (Service.traverse query (.text (FunctionNode.idOf fold.toFields)))
        (.ok ⟨"f", [grow.toFields]⟩) := by
    intro query hquery
    rw [hfocal]
    exact gives_traverse_sample hquery (by with_unfolding_all rfl)
  obtain ⟨hneighborhood, hcallees, hcallers⟩ := Service.forall_mem_explorations.mp hreached
  have hgives := Service.gives_explore gives_functionDetail_sample hneighborhood hcallees hcallers
    {} (.int 5)
  have hnodes : ((Service.explore {} (.text " f") (.int 5)).fresh sample).toOption.map
      (·.nodes.map fun n => (n.id, n.name.text?, n.file.text?, n.tags.toList)) =
      some [("g", some "Grow", some "grow.go", [.callee, .direct]),
        ("f", some "Fold", some "fold.go", [.focus])] := by
    rw [hgives.fresh_eq]
    with_unfolding_all rfl
  have hserver : Server.IsOver (fun c => (Client.ask {} c).fresh sample) {} sample :=
    fun _ => ⟨{}, .empty sample, rfl⟩
  rw [Access.fresh] at hnodes ⊢
  rcases hrun : (Service.explore {} (.text " f") (.int 5)).run sample {} with ⟨e | g, cache⟩
  · rw [hrun] at hnodes
    contradiction
  · rw [hrun] at hnodes
    obtain ⟨-, d, -, -, hd, hgraph⟩ := displays_explored_graph {} {} sample _ " f" 5 g {} cache
      [.callers, .neighborhood, .callChain] leavesNoTrace_exploration hserver lossless_sample
      (.empty sample) hrun (by decide)
    exact ⟨g, d, rfl, Option.some.inj hnodes, hd, hgraph⟩

def tabling : Source where
  path := "tabling.db"
  backing :=
    let columns (names : List String) : List Store.Column := names.map fun name => { name }
    let text := "SELECT * FROM near WHERE of=:function_id"
    .tables {
      tables := [
        ("dashboard_function_detail",
          ⟨columns ["function_id", "name"], [[.text "f", .text "Fold"]]⟩),
        ("near", ⟨columns ["of", "id", "name"], [[.text "f", .text "g", .text "Grow"]]⟩),
        ("queries",
          ⟨columns ["name", "sql"],
            [[.text "function_neighborhood", .text text], [.text "call_chain", .text text],
              [.text "callers_of", .text "CREATE TEMP TABLE t AS SELECT 1 AS id"]]⟩)]
      hasDetailView := false }

def repeated? {α : Type} : Except Failure α → Option String
  | .error (.tableRepeated name) => some name
  | _ => none

theorem repeated?_eq_some {α : Type} {result : Except Failure α} {name : String}
    (h : repeated? result = some name) : result = .error (.tableRepeated name) := by
  unfold repeated? at h
  split at h
  · rw [Option.some.inj h]
  · contradiction

/-- The table is there when the explorer asks for it again, and nothing is displayed. -/
theorem not_displayed_after_exploring :
    ∃ g cache, (Service.explore {} (.text "f") .null).run tabling {} = (.ok g, cache) ∧
      ((alone {} (.ofSettings {}) (.exploreId (.text "f"))).run tabling cache).1 =
        .error (.tableRepeated "t") := by
  have hboth : (((Service.explore {} (.text "f") .null).run tabling {}).1.toOption.isSome,
      repeated? ((alone {} (.ofSettings {}) (.exploreId (.text "f"))).run tabling
        ((Service.explore {} (.text "f") .null).run tabling {}).2).1) = (true, some "t") := by
    decide +kernel
  rcases hrun : (Service.explore {} (.text "f") .null).run tabling {} with ⟨e | g, cache⟩
  · rw [hrun] at hboth
    exact nomatch congrArg Prod.fst hboth
  · rw [hrun] at hboth
    exact ⟨g, cache, rfl, repeated?_eq_some (congrArg Prod.snd hboth)⟩

end CallAtlas.Explorer
