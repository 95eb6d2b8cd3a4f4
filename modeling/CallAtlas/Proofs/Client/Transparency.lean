import CallAtlas.Proofs.Client.Exchange
import CallAtlas.Proofs.Limit
import CallAtlas.Proofs.Store.Sessions
import CallAtlas.Proofs.Store.Statement

namespace CallAtlas

open Store

variable {e : Failure} {c : FailureClass}

namespace Client

def Call.operation [Engine] (settings : Settings) : Call → Access Json
  | .queries includeSql => Service.listQueries (.bool includeSql)
  | .search q limit => Service.search q limit
  | .functionDetail id => .object <$> Service.functionDetail id
  | .source id => Service.source id
  | .file name => Service.file settings name
  | .fileFunctions name => Service.fileFunctions settings name
  | .neighborhood id => Service.Reached.toJson <$> Service.neighborhood id
  | .callChain id => Service.Reached.toJson <$> Service.callChain id
  | .callers id => Service.Reached.toJson <$> Service.callers id
  | .path start goal => Service.paths start goal

/-- A limit that is left out, or a whole number that a double comes near to. -/
inductive IsLimit : Json → Prop
  | none : IsLimit .null
  | int (n : Int) (h : n.natAbs < 10 ^ 300) : IsLimit (.int n)

/-- Calls whose arguments are texts, but for limits and truth values. -/
inductive Call.IsPlain : Call → Prop
  | queries (includeSql : Bool) : IsPlain (.queries includeSql)
  | search (q : String) (limit : Json) (h : IsLimit limit) : IsPlain (.search (.text q) limit)
  | functionDetail (id : String) : IsPlain (.functionDetail (.text id))
  | source (id : String) : IsPlain (.source (.text id))
  | file (name : String) : IsPlain (.file (.text name))
  | fileFunctions (name : String) : IsPlain (.fileFunctions (.text name))
  | neighborhood (id : String) : IsPlain (.neighborhood (.text id))
  | callChain (id : String) : IsPlain (.callChain (.text id))
  | callers (id : String) : IsPlain (.callers (.text id))
  | path (start goal : String) : IsPlain (.path (.text start) (.text goal))

theorem param_limit (q : String) {limit : Json} (h : IsLimit limit) :
    Limit.ofJson ((Call.search (.text q) limit).request.param "limit") = Limit.ofJson limit := by
  cases h with
  | none => rfl
  | int n hn => exact Limit.ofText_toString hn

/-- What a call brings against what the operation itself gives. Payloads come back if JSON can tell
them; a failure comes back with its status, the phrase for it and its message. Neither comes from
anything else. -/
structure Mirrors (direct remote : Except Failure Json) : Prop where
  payload : ∀ v, direct = .ok v → v.finite = v → remote = .ok v
  failure : ∀ e c, direct = .error e → e.class? = some c →
    ∃ e' c', remote = .error e' ∧ e'.class? = some c' ∧ c'.status = c.status ∧
      e'.message = s!"{c.status} {Http.phrase c.status}: {e.message}"
  of_payload : ∀ v, remote = .ok v → ∃ u, direct = .ok u ∧ v = u.finite
  of_failure : ∀ e' c', remote = .error e' → e'.class? = some c' →
    ∃ e c, direct = .error e ∧ e.class? = some c ∧ c.status = c'.status

theorem class?_answered (c : FailureClass) (phrase detail : String) :
    ∃ c', (Failure.answered c.status phrase detail).class? = some c' ∧ c'.status = c.status := by
  cases c <;> exact ⟨_, rfl, rfl⟩

@[simp] theorem seen_ok (v : Json) : seen (.ok v) = .ok v.finite := rfl

theorem seen_of_class (h : e.class? = some c) :
    seen (.error e) = .error (.answered c.status (Http.phrase c.status) e.message) := by
  simp only [seen, h]

theorem seen_of_no_class (h : e.class? = none) : seen (.error e) = .error e := by
  simp only [seen, h]

theorem mirrors_seen (direct : Except Failure Json) : Mirrors direct (seen direct) := by
  cases direct with
  | ok u =>
    rw [seen_ok]
    exact {
      payload := fun v hv hfinite => by cases hv; exact congrArg _ hfinite
      failure := fun _ _ he => nomatch he
      of_payload := fun v hv => ⟨u, rfl, (Except.ok.inj hv).symm⟩
      of_failure := fun _ _ he => nomatch he }
  | error e =>
    cases hclass : e.class? with
    | none =>
      rw [seen_of_no_class hclass]
      exact {
        payload := fun _ hv => nomatch hv
        failure := fun e₁ c he hc => by cases he; rw [hclass] at hc; contradiction
        of_payload := fun _ hv => nomatch hv
        of_failure := fun e' c' he hc => ⟨e', c', he, hc, rfl⟩ }
    | some c =>
      obtain ⟨c₀, hc₀, hstatus⟩ := class?_answered c (Http.phrase c.status) e.message
      rw [seen_of_class hclass]
      exact {
        payload := fun _ hv => nomatch hv
        failure := fun e₁ c₁ he hc => by
          cases he
          obtain rfl := Option.some.inj (hclass.symm.trans hc)
          exact ⟨_, c₀, rfl, hc₀, hstatus, rfl⟩
        of_payload := fun _ hv => nomatch hv
        of_failure := fun e' c' he hc => by
          cases he
          obtain rfl := Option.some.inj (hc₀.symm.trans hc)
          exact ⟨e, c, rfl, hclass, hstatus.symm⟩ }

section Asking

variable [Engine] {settings : Settings} {source : Source}

theorem answer_request {c : Call} (h : c.IsPlain) :
    Http.answer settings c.request c.endpoint = c.operation settings := by
  cases h with
  | queries includeSql =>
    have hflag :
        Http.isTrue ((Call.queries includeSql).request.param "includeSql") = includeSql := by
      cases includeSql <;> with_unfolding_all rfl
    exact congrArg (Service.listQueries <| .bool ·) hflag
  | search q limit hlimit =>
    have hq : (Call.search (.text q) limit).request.param "q" = .text q := by
      cases hlimit <;> rfl
    exact (congrArg (Service.search · _) hq).trans (Service.search_congr _ (param_limit q hlimit))
  | _ => rfl

theorem steady_operation (hqueries : ∀ name ∈ Service.queries, source.LeavesNoTrace name)
    (settings : Settings) (c : Call) : Access.Steady source (c.operation settings) := by
  obtain ⟨hsearch, hexplorations, hpaths⟩ := Service.forall_mem_queries.mp hqueries
  obtain ⟨hneighborhood, hcallees, hcallers⟩ := Service.forall_mem_explorations.mp hexplorations
  cases c with
  | queries includeSql => exact Service.steady_listQueries _
  | search q limit => exact Service.steady_search hsearch _ _
  | functionDetail id => exact (Service.steady_functionDetail _).map _
  | source id => exact Service.steady_source _
  | file name => exact Service.steady_file _ _
  | fileFunctions name => exact Service.steady_fileFunctions _ _
  | neighborhood id => exact (Service.steady_traverse hneighborhood id).map _
  | callChain id => exact (Service.steady_traverse hcallees id).map _
  | callers id => exact (Service.steady_traverse hcallers id).map _
  | path start goal => exact Service.steady_paths hpaths _ _

theorem run_ask_of_plain {c : Call} (hc : c.IsPlain)
    (hsent : Http.Location.checkQuery c.request.params = .ok ()) (cache : Cache) :
    (ask settings c).run source cache = ((c.operation settings).run source cache).map seen id := by
  rw [run_ask hsent, answer_request hc]

theorem steady_ask (settings : Settings)
    (hqueries : ∀ name ∈ Service.queries, source.LeavesNoTrace name) {c : Call}
    (hc : c.IsPlain) (hsent : Http.Location.checkQuery c.request.params = .ok ()) :
    Access.Steady source (ask settings c) := by
  intro cache hcache
  obtain ⟨hresult, hfaithful⟩ := steady_operation hqueries settings c cache hcache
  rw [Access.fresh, run_ask_of_plain hc hsent, run_ask_of_plain hc hsent]
  exact ⟨congrArg seen hresult, hfaithful⟩

/-- A call over HTTP is as good as asking the service in its place. If the queries leave nothing
behind, it does not matter either what the service and the server were asked before. -/
theorem mirrors_ask (settings : Settings) (source : Source) (c : Call) (hc : c.IsPlain)
    (hsent : Http.Location.checkQuery c.request.params = .ok ()) :
    (∀ cache : Cache, Mirrors ((c.operation settings).run source cache).1
      ((ask settings c).run source cache).1) ∧
    ((∀ name ∈ Service.queries, source.LeavesNoTrace name) →
      ∀ service server : Cache, service.Faithful source → server.Faithful source →
        Mirrors ((c.operation settings).run source service).1
          ((ask settings c).run source server).1) := by
  have hplace (cache : Cache) : Mirrors ((c.operation settings).run source cache).1
      ((ask settings c).run source cache).1 := by
    rw [run_ask_of_plain hc hsent]
    exact mirrors_seen _
  refine ⟨hplace, fun hqueries service server hservice hserver => ?_⟩
  -- Both are compared with the operation on a fresh service.
  obtain ⟨_, -, hdirect⟩ := (steady_operation hqueries settings c).run_eq hservice
  obtain ⟨_, -, hremote⟩ := (steady_operation hqueries settings c).run_eq hserver
  have hserver := hplace server
  rwa [hremote, ← congrArg Prod.fst hdirect] at hserver

end Asking

/-- A service and a server that are apart, the server closed after an earlier call. -/
theorem mirrors_ask_sample :
    let server := (Access.close.run sample ((ask {} (.callers (.text "e"))).run sample {}).2).2
    ((ask {} (.callers (.text " f"))).run sample server).1 =
        .ok (.object [("functionId", .text "f"), ("count", .int 1),
          ("nodes", .list [.object Service.grow.toFields])]) ∧
      ∃ e, ((ask {} (.functionDetail (.text "g "))).run sample server).1 = .error e ∧
        e.message = "404 Not Found: Function not found: g" := by
  intro server
  have hearlier := steady_ask {} leavesNoTrace_sample (.callers "e")
    (by with_unfolding_all rfl)
  have hserver : server.Faithful sample :=
    (Access.steady_close _ (hearlier {} (.empty sample)).2).2
  have hreached : (((Call.callers (.text " f")).operation {}).run sample {}).1 =
      .ok (Service.Reached.toJson ⟨"f", [Service.grow.toFields]⟩) := by
    have hgives : Access.Gives sample (Service.callers (.text " f"))
        (.ok ⟨"f", [Service.grow.toFields]⟩) :=
      Service.gives_traverse_sample (by simp [Service.explorations])
        (by with_unfolding_all rfl)
    rw [Call.operation, map_eq_pure_bind]
    exact (hgives.bind (.pure (Service.Reached.toJson _))).fresh_eq
  have hlost : (((Call.functionDetail (.text "g ")).operation {}).run sample {}).1 =
      .error (.functionNotFound "g") := rfl
  have hgrow : (Json.object Service.grow.toFields).finite = .object Service.grow.toFields :=
    finite_toFields (by simp [Service.grow, Store.Cell.toJson, Json.finite])
  obtain ⟨-, hcallers⟩ := mirrors_ask {} sample (.callers (.text " f")) (.callers " f")
    (by with_unfolding_all rfl)
  obtain ⟨-, hdetail⟩ := mirrors_ask {} sample (.functionDetail (.text "g ")) (.functionDetail "g ")
    (by with_unfolding_all rfl)
  obtain ⟨e, c, he, -, -, hmessage⟩ :=
    (hdetail leavesNoTrace_sample {} server (.empty sample) hserver).failure _ .notFound hlost rfl
  have hwhole : (Service.Reached.toJson ⟨"f", [Service.grow.toFields]⟩).finite =
      Service.Reached.toJson ⟨"f", [Service.grow.toFields]⟩ :=
    finite_reached fun node hnode => List.mem_singleton.mp hnode ▸ hgrow
  refine ⟨(hcallers leavesNoTrace_sample {} server (.empty sample) hserver).payload _ hreached
    hwhole, e, he, ?_⟩
  rw [hmessage]
  with_unfolding_all rfl

end Client
end CallAtlas
