import CallAtlas.Proofs.Explorer.Failures
import CallAtlas.Proofs.Explorer.Panel
import CallAtlas.Proofs.Graph.Typed

namespace CallAtlas.Explorer

open Relation (ReflTransGen)

/-- A task has published what is on display, from what its own three calls have brought. -/
structure Task.Publishes (setup : Setup) (t : Task) (d : Display) : Prop where
  published : t.outcome = .published
  stage : t.stage = .graph d.generation d.focal
  joined : ∃ neighborhood callChain callers,
    t.Holds (.neighborhood (.text d.focal.id)) neighborhood ∧
    t.Holds (.callChain (.text d.focal.id)) callChain ∧
    t.Holds (.callers (.text d.focal.id)) callers ∧
    graphOf setup d.focal neighborhood callChain callers = .ok d.graph

namespace State

variable {setup : Setup} {event : Event} {s s' : State} {i : Nat}

theorem Acts.publishes (h : Acts setup event i s s') (hs : s.Healthy) {t : Task}
    (ht : s'.task? i = some t) (hgraph : t.stage.loadsGraph = true)
    (hpublished : t.outcome = .published) : ∃ d, s'.display = some d ∧ t.Publishes setup d := by
  obtain ⟨u, fetches, focal, graph, hu, hopen, hstage, hlast, hjoined, rfl, -, hdisplay⟩ :=
    h.published_cases ht hgraph hpublished
  have hunderway := hlast.underway (hs i u hu hopen)
  have hasks := hunderway.asks
  rw [hstage] at hasks
  have hholds (f : Fetch) (hf : f ∈ graphFetches focal) :=
    (hunderway.answer hlast.2 (hasks.mem_of_graph hf)).finish .published
  refine ⟨_, hdisplay, rfl, hstage, _, _, _, ?_, ?_, ?_, hjoined⟩
  · exact hholds ⟨.neighborhood (.text focal.id), .pending⟩ (by simp [graphFetches])
  · exact hholds ⟨.callChain (.text focal.id), .pending⟩ (by simp [graphFetches])
  · exact hholds ⟨.callers (.text focal.id), .pending⟩ (by simp [graphFetches])

def Attributed (setup : Setup) (s : State) : Prop :=
  ∀ d, s.display = some d → ∃ i t, s.task? i = some t ∧ t.Publishes setup d

theorem Attributed.respond (h : s.Attributed setup) (hs : s.Steady) (event : Event) :
    (s.respond setup event).Attributed setup := by
  obtain ⟨hacts, -⟩ := respond_acts setup hs.sent event
  intro d hd
  by_cases hsame : (s.respond setup event).display = s.display
  · obtain ⟨i, t, ht, hpublishes⟩ := h d (hsame ▸ hd)
    refine ⟨i, t, task?_of_ended hacts ht ?_, hpublishes⟩
    rw [Task.isPending, hpublishes.published]
  · obtain ⟨t, hends, hgraph, -, hleaves⟩ := ends_of_display_ne hacts hsame
    rw [hd] at hleaves
    obtain ⟨b, hbefore, hact, -⟩ := exists_last_act hacts hends
    obtain ⟨d', hd', hpublishes⟩ :=
      hact.publishes (healthy_of_acts hbefore hs.healthy) hends.1 hgraph hleaves.1
    obtain rfl := Option.some.inj (hd.symm.trans hd')
    exact ⟨_, t, hends.1, hpublishes⟩

theorem attributed_run (setup : Setup) (events : List Event) :
    (({} : State).run setup events).Attributed setup := by
  induction events using List.reverseRecOn with
  | nil =>
    intro d hd
    contradiction
  | append_singleton events event ih =>
    rw [run_concat]
    exact ih.respond (steady_run setup events) event

end State

theorem Task.Holds.brought {setup : Setup} {events : List Event} {i : Nat} {t : Task}
    {call : Client.Call} {v : Json} (h : t.Holds call v)
    (ht : (({} : State).run setup events).task? i = some t) :
    Brought setup events i call (.ok v) := by
  obtain ⟨f, hf, rfl, hreply⟩ := h
  exact brought_of_reply ht hf hreply

open State

/-- A graph is never there in parts, nor put together from the answers to several loads: there is a
function in focus if and only if there is a graph, and then one single load has published both, from
what its own three requests were answered. A failure once all of them are answered changes
nothing. -/
theorem displays_one_load (setup : Setup) (events : List Event) (event : Event) :
    let s := ({} : State).run setup events
    let p := ({} : Panel).run setup events
    let s' := s.respond setup event
    let p' := p.respond setup event
    (p = .ofState s ∧ p' = .ofState s') ∧
    (p.focal = none ↔ p.model = none) ∧
    (∀ focal model, p.focal = some focal → p.model = some model →
      ∃ i t g, p.tasks[i]? = some t ∧ t.outcome = .published ∧ t.stage = .graph g focal ∧
        (∀ (j : Nat) u, p.tasks[j]? = some u → u.stage.loadsGraph = true → u.generation = g →
          j = i) ∧
        ∃ neighborhood callChain callers,
          Brought setup events i (.neighborhood (.text focal.id)) (.ok neighborhood) ∧
          Brought setup events i (.callChain (.text focal.id)) (.ok callChain) ∧
          Brought setup events i (.callers (.text focal.id)) (.ok callers) ∧
          IsGraphOf setup focal neighborhood callChain callers model) ∧
    ∀ i t e, Ends s s' i t → t.outcome = .failed e → t.Joined →
      p'.focal = p.focal ∧ p'.model = p.model := by
  intro s p s' p'
  have hsteady : s.Steady := steady_run setup events
  have hp : p = .ofState s := Panel.run_eq_ofState setup events
  have hp' : p' = .ofState s' := (congrArg (Panel.respond setup · event) hp).trans
    (Panel.respond_ofState setup s event)
  refine ⟨⟨hp, hp'⟩, Panel.whole_run setup events, fun focal model hfocal hmodel => ?_,
    fun i t e hends hfailed hjoined => ?_⟩
  · rw [hp] at hfocal hmodel ⊢
    obtain ⟨d, hd, rfl⟩ := Option.map_eq_some_iff.mp hfocal
    obtain ⟨d', hd', rfl⟩ := Option.map_eq_some_iff.mp hmodel
    obtain rfl := Option.some.inj (hd.symm.trans hd')
    obtain ⟨i, t, ht, hpublished, hstage, neighborhood, callChain, callers, hn, hc, hr, hgraph⟩ :=
      attributed_run setup events d hd
    refine ⟨i, t, d.generation, ht, hpublished, hstage, fun j u hu hgraph' hg => ?_, neighborhood,
      callChain, callers, hn.brought ht, hc.brought ht, hr.brought ht,
      graphOf_eq_ok_iff.mp hgraph⟩
    refine hsteady.ordered.eq_of_generation hu ht hgraph' (by rw [hstage]; rfl) ?_
    rw [hg, Task.generation, hstage]
  · obtain ⟨b, hsame, -, ⟨-, hdisplay⟩ | ⟨hmissing, -⟩⟩ := failed_of_ends hsteady hends hfailed
    · have hkept : s'.display = s.display := hdisplay.trans hsame
      rw [hp, hp']
      exact ⟨congrArg (Option.map Display.focal) hkept, congrArg (Option.map Display.graph) hkept⟩
    · exact absurd hjoined hmissing

def askingAgain : List Event :=
  [.explore gathered.focal, .settle 0 .callers (social .callers),
    .settle 0 .neighborhood (social .neighborhood), .settle 0 .callChain (social .callChain),
    .explore { id := "x" }]

theorem displays_one_load_of_second :
    let p := ({} : Panel).run {} askingAgain
    p.focal = some { id := "b", name := .text "Bind", file := .text "bind.go" } ∧
      p.model = some (Graph.assemble {} 60 gathered) ∧
      (Graph.assemble {} 60 gathered).ids = ["c", "m", "e", "b"] := by
  intro p
  obtain ⟨-, -, hpublished, -⟩ := displays_one_load {} askingAgain (.cancel 1)
  obtain ⟨focal, hfocal⟩ : ∃ focal, p.focal = some focal :=
    Option.isSome_iff_exists.mp (by decide +kernel)
  obtain ⟨model, hmodel⟩ : ∃ model, p.model = some model :=
    Option.isSome_iff_exists.mp (by decide +kernel)
  obtain ⟨i, t, g, ht, -, hstage, -, neighborhood, callChain, callers, hn, hc, hr, hgraph⟩ :=
    hpublished focal model hfocal hmodel
  have hsettle {call : Client.Call} {v : Json} (h : Brought {} askingAgain i call (.ok v)) :
      .settle i call.endpoint (.ok v) ∈ askingAgain := by
    obtain ⟨before, after, -, hevents, -⟩ := h
    simp [hevents]
  have hn' := hsettle hn
  have hc' := hsettle hc
  have hr' := hsettle hr
  simp only [askingAgain, Client.Call.endpoint, List.mem_cons, List.not_mem_nil, or_false,
    reduceCtorEq, Event.settle.injEq, false_or, and_false, false_and, true_and] at hn' hc' hr'
  obtain ⟨rfl, hn'⟩ := hn'
  obtain rfl := Except.ok.inj hn'
  obtain rfl := Except.ok.inj hc'.2
  obtain rfl := Except.ok.inj hr'.2
  have hfirst : (p.tasks[0]?).map Task.stage = some (.graph 1 gathered.focal) := by
    with_unfolding_all rfl
  rw [ht, Option.map_some, hstage] at hfirst
  obtain ⟨-, rfl⟩ := Stage.graph.inj (Option.some.inj hfirst)
  obtain ⟨around, callees, into, hn, hc, hr, hassembled⟩ := hgraph
  obtain rfl := hn.unique lists_social.1
  obtain rfl := hc.unique lists_social.2.1
  obtain rfl := hr.unique lists_social.2.2
  obtain rfl := Graph.eq_assemble_of_assemble?_eq_ok hassembled
  exact ⟨hfocal, hmodel, by decide +kernel⟩

end CallAtlas.Explorer
