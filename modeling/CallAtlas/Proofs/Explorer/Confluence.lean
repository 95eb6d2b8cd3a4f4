import CallAtlas.Proofs.Explorer.Answers
import CallAtlas.Proofs.Explorer.Latest
import CallAtlas.Proofs.Graph.Typed

namespace CallAtlas.Explorer

open Http (Endpoint)
open Relation (ReflTransGen)

namespace State

def shown (s : State) : Option (FunctionNode × Graph) :=
  s.display.map fun d => (d.focal, d.graph)

/-- No request is open any more. -/
def Quiet (s : State) : Prop :=
  ∀ i t, s.task? i = some t → ∀ f ∈ t.fetches, f.isPending = false

theorem quiet_iff {s : State} :
    s.Quiet ↔ s.tasks.all (fun t => t.fetches.all fun f => !f.isPending) = true := by
  simp only [List.all_eq_true, Bool.not_eq_true']
  constructor
  · intro h t ht
    obtain ⟨i, hi⟩ := List.getElem?_of_mem ht
    exact h i t hi
  · exact fun h i t ht => h t (List.mem_of_getElem? ht)

instance (s : State) : Decidable s.Quiet :=
  decidable_of_iff _ quiet_iff.symm

/-- How far load `k` has come, with the number of answers that it may still need at most. -/
inductive Phase (setup : Setup) (reply : Replies) (focal : FunctionNode) (k : Nat) (s : State) :
    Nat → Prop
  | lookingUp {id v : Json} (ht : s.task? k = some
      { stage := .detail s.generation, fetches := [⟨.functionDetail id, .pending⟩] })
    (hreply : reply .functionDetail = .ok v) (hfocal : FunctionNode.ofJson v = .ok focal) :
    Phase setup reply focal k s 4
  | gathering {t : Task} (ht : s.task? k = some t) (hopen : t.isPending = true)
    (hstage : t.stage = .graph s.generation focal) (hgathers : Gathers reply focal t.fetches)
    (hsome : t.fetches.any Fetch.isPending = true) :
    Phase setup reply focal k s (t.fetches.countP Fetch.isPending)
  | ended {t : Task} (ht : s.task? k = some t) (hended : t.isPending = false)
    (hstage : t.stage = .graph s.generation focal)
    (hclosed : ∀ f ∈ t.fetches, f.isPending = false)
    (hshown : s.shown = (loaded setup reply focal).toOption) : Phase setup reply focal k s 0

section Phase

variable {setup : Setup} {reply : Replies} {focal : FunctionNode} {k n : Nat} {s s' : State}

theorem Phase.latest (h : Phase setup reply focal k s n) :
    ∃ t, s.task? k = some t ∧ t.stage.loadsGraph = true ∧ t.generation = s.generation := by
  cases h with
  | lookingUp ht => exact ⟨_, ht, rfl, rfl⟩
  | gathering ht hopen hstage | ended ht hended hstage =>
    exact ⟨_, ht, by rw [hstage]; rfl, by rw [Task.generation, hstage]⟩

theorem Phase.congr (h : Phase setup reply focal k s n) (htask : s'.task? k = s.task? k)
    (hgeneration : s'.generation = s.generation) (hdisplay : s'.display = s.display) :
    Phase setup reply focal k s' n := by
  cases h with
  | lookingUp ht hreply hfocal =>
    rw [← hgeneration, ← htask] at ht
    exact .lookingUp ht hreply hfocal
  | gathering ht hopen hstage hgathers hsome =>
    rw [← hgeneration] at hstage
    exact .gathering (htask.trans ht) hopen hstage hgathers hsome
  | ended ht hended hstage hclosed hshown =>
    rw [← hgeneration] at hstage
    refine .ended (htask.trans ht) hended hstage hclosed ?_
    rw [← hshown, State.shown, hdisplay, State.shown]

theorem Phase.of_other (h : Phase setup reply focal k s n) (hs : s.Sound) {i : Nat} (hi : i ≠ k)
    (e : Endpoint) (r : Except Failure Json) :
    Phase setup reply focal k (s.respond setup (.settle i e r)) n := by
  obtain ⟨hacts, -⟩ := respond_acts setup hs.sent (.settle i e r)
  cases ht : s.task? i with
  | none =>
    have hidle : s.step setup (.settle i e r) = s := by simp [step, ht]
    rwa [respond, hidle, settled_of_sent hs.sent]
  | some t =>
    have hother : ¬(t.stage.loadsGraph = true ∧ t.generation = s.generation) := by
      rintro ⟨hgraph, hlatest⟩
      obtain ⟨u, hu, hgraph', hlatest'⟩ := h.latest
      exact hi (hs.ordered.eq_of_generation ht hu hgraph hgraph' (hlatest.trans hlatest'.symm))
    obtain ⟨hgeneration, hdisplay, -⟩ := other_of_acts hacts ht hother
    exact h.congr (task?_of_acts_of_ne hacts hi.symm) hgeneration hdisplay

theorem phase_of_failed {t : Task} (ht : s.task? k = some t)
    (hstage : t.stage = .graph s.generation focal) (fetches : List Fetch) (e : Failure)
    (hloaded : (loaded setup reply focal).toOption = none) :
    Phase setup reply focal k ((s.clear { t with fetches }).fail k { t with fetches } e) 0 := by
  refine .ended (task?_fail ht _ e) rfl ?_ (fun f => Task.pending_of_mem_finish) ?_
  · rw [State.fail, generation_replace, generation_clear]
    exact hstage
  · have hcleared := display_clear_latest (t := { t with fetches }) hstage
    rw [hloaded, State.shown, State.fail, display_replace, hcleared]
    rfl

theorem phase_of_begun {t : Task} {ahead : List Fetch} (ht : s.task? k = some t)
    (hopen : t.isPending = true) (hstage : t.stage = .graph s.generation focal)
    (hfetches : t.fetches = ahead ++ graphFetches focal)
    (hahead : ∀ f ∈ ahead, f.endpoint = .functionDetail ∧ f.isPending = false)
    (hothers : ∀ j u, j ≠ k → s.task? j = some u → u.unsent? = none) :
    ∃ m ≤ 3, Phase setup reply focal k s.settled m := by
  have hpending : t.fetches.filter Fetch.isPending = graphFetches focal := by
    have hnone : ahead.filter Fetch.isPending = [] :=
      List.filter_eq_nil_iff.mpr fun f hf => by simp [(hahead f hf).2]
    rw [hfetches, List.filter_append, hnone, List.nil_append]
    rfl
  rw [settled_of_others ht hothers]
  cases hunsent : t.unsent? with
  | none =>
    rw [dropUnsent_of_sent hunsent]
    rw [Task.unsent?, hpending, List.findSome?_eq_none_iff] at hunsent
    refine ⟨t.fetches.countP Fetch.isPending, ?_, .gathering ht hopen hstage ⟨hunsent, ?_⟩ ?_⟩
    · rw [List.countP_eq_length_filter, hpending]
      exact Nat.le_refl _
    · refine ⟨ahead, graphFetches focal, hfetches, hahead, rfl, fun f hf => Or.inl ?_⟩
      rw [← hpending] at hf
      exact (List.mem_filter.mp hf).2
    · rw [hfetches, List.any_append]
      simp [graphFetches, Fetch.isPending]
  | some e =>
    rw [dropUnsent, hunsent]
    refine ⟨0, Nat.zero_le _, phase_of_failed ht hstage _ e ?_⟩
    rw [Task.unsent?, hpending] at hunsent
    obtain ⟨f, hf, hfault⟩ := List.exists_of_findSome?_eq_some hunsent
    exact toOption_loaded_of_error hf (by rw [received, hfault])

theorem countP_answered_lt {e : Endpoint} {r : Except Failure Json} {fetches : List Fetch}
    (h : fetches.any (isOpen e) = true) :
    (fetches.map (answered e r)).countP Fetch.isPending < fetches.countP Fetch.isPending := by
  have hclosed (f : Fetch) (hf : isOpen e f = true) : (answered e r f).isPending = false := by
    rw [answered, if_pos hf]
    rfl
  have hle (f : Fetch) : (answered e r f).isPending = true → f.isPending = true := by
    unfold answered
    split
    · intro hpending
      contradiction
    · exact id
  induction fetches with
  | nil => contradiction
  | cons f fs ih =>
    rw [List.map_cons, List.countP_cons, List.countP_cons]
    have hrest : (fs.map (answered e r)).countP Fetch.isPending ≤ fs.countP Fetch.isPending := by
      rw [List.countP_map]
      exact List.countP_mono_left fun g _ => hle g
    by_cases hf : isOpen e f = true
    · have hopen : f.isPending = true := (Bool.and_eq_true_iff.mp hf).2
      rw [hclosed f hf, hopen]
      simp only [Bool.false_eq_true, if_false, if_true]
      omega
    · have hsome := ih (by simpa [hf] using h)
      have hkept : answered e r f = f := if_neg hf
      rw [hkept]
      omega

theorem phase_of_lookedUp {id v : Json} (hs : s.Sound) (ht : s.task? k = some
      { stage := .detail s.generation, fetches := [⟨.functionDetail id, .pending⟩] })
    (hreply : reply .functionDetail = .ok v) (hfocal : FunctionNode.ofJson v = .ok focal) :
    ∃ m ≤ 3, Phase setup reply focal k
      (s.respond setup (.settle k .functionDetail (reply .functionDetail))) m := by
  have haccepts : s.accepts (.settle k .functionDetail (reply .functionDetail)) = true :=
    accepts_settle_iff.mpr ⟨_, ht, rfl, rfl⟩
  have hstep : s.step setup (.settle k .functionDetail (reply .functionDetail)) =
      s.enter k { stage := .detail s.generation,
                  fetches := [⟨.functionDetail id, .answered (.ok v)⟩] } focal := by
    have hanswered : [(⟨.functionDetail id, .pending⟩ : Fetch)].map
        (answered .functionDetail (.ok v)) = [⟨.functionDetail id, .answered (.ok v)⟩] := rfl
    rw [step_of_accepts ht haccepts, hreply, settle, hanswered]
    simp [Fetch.isPending, advance, Task.payload, Fetch.endpoint, Client.Call.endpoint,
      Fetch.reply?, hfocal]
  rw [respond, hstep]
  have hahead : ∀ f ∈ [(⟨.functionDetail id, .answered (.ok v)⟩ : Fetch)],
      f.endpoint = .functionDetail ∧ f.isPending = false := by
    intro f hf
    rw [List.mem_singleton.mp hf]
    exact ⟨rfl, rfl⟩
  refine phase_of_begun (task?_replace_self ht) rfl rfl rfl hahead fun j u hj hu => ?_
  exact hs.sent j u (task?_replace_of_ne _ _ _ hj ▸ hu)

theorem advance_graph {t : Task} (setup : Setup) (k : Nat)
    (hstage : t.stage = .graph s.generation focal) {graph : Graph}
    (hgraph : graphOf setup focal (t.payload .neighborhood) (t.payload .callChain)
      (t.payload .callers) = .ok graph) :
    s.advance setup k t = { s with display := some ⟨s.generation, focal, graph⟩ }.replace k
      (t.finish .published) := by
  unfold advance
  simp only [hstage, ne_eq, not_true_eq_false, if_false]
  rw [hgraph]

theorem phase_of_joined (hassembles : Assembles setup reply focal) (hsent : s.Sent) {t : Task}
    (hk : k < s.tasks.length) (hstage : t.stage = .graph s.generation focal)
    (hgathers : Gathers reply focal t.fetches) (hclosed : ∀ f ∈ t.fetches, f.isPending = false) :
    Phase setup reply focal k (s.advance setup k t).settled 0 := by
  obtain ⟨hn, hc, hr⟩ := hgathers.payloads hclosed
  obtain ⟨graph, hassembled⟩ := hassembles _ _ _ hn hc hr
  have hgraph := graphOf_eq_ok_iff.mpr hassembled
  have hself (u : Task) : ({ s with display := some ⟨s.generation, focal, graph⟩ }.replace k
      u).task? k = some u :=
    List.getElem?_set_self hk
  rw [advance_graph setup k hstage hgraph, settled_of_acted hsent (hself _)
    (Task.unsent?_finish _ _) fun j hj => task?_replace_of_ne _ _ _ hj]
  refine .ended (hself _) rfl hstage (fun f => Task.pending_of_mem_finish) ?_
  rw [toOption_loaded_of_ok hgathers.writable hn hc hr hgraph]
  rfl

theorem phase_of_gathered (hassembles : Assembles setup reply focal) (hs : s.Sound) {t : Task}
    (ht : s.task? k = some t) (hopen : t.isPending = true)
    (hstage : t.stage = .graph s.generation focal) (hgathers : Gathers reply focal t.fetches)
    {e : Endpoint} (haccepts : s.accepts (.settle k e (reply e)) = true) :
    ∃ m < t.fetches.countP Fetch.isPending,
      Phase setup reply focal k (s.respond setup (.settle k e (reply e))) m := by
  obtain ⟨u, hu, -, hany⟩ := accepts_settle_iff.mp haccepts
  obtain rfl := Option.some.inj (ht.symm.trans hu)
  obtain ⟨f, hf, hf'⟩ := List.any_eq_true.mp hany
  simp only [isOpen, Bool.and_eq_true, beq_iff_eq] at hf'
  have hless := countP_answered_lt (r := reply e) hany
  have hsome : 0 < t.fetches.countP Fetch.isPending := Nat.zero_lt_of_lt hless
  cases hreply : reply e with
  | error failure =>
    rw [hreply] at haccepts
    rw [respond_error ht hs.sent haccepts]
    refine ⟨0, hsome, ?_⟩
    apply phase_of_failed ht hstage
    obtain ⟨g, hg, hsame⟩ := hgathers.of_open hf hf'.2
    exact toOption_loaded_of_error hg (hsame.trans (hf'.1 ▸ hreply))
  | ok v =>
    have hgathers' := hgathers.answered hreply
    rw [hreply] at hless haccepts
    by_cases hmore : (t.fetches.map (answered e (.ok v))).any Fetch.isPending = true
    · -- Another request is still open, and the load goes on waiting.
      rw [respond_ok_of_more ht hs.sent haccepts hmore]
      exact ⟨_, hless, .gathering (task?_replace_self ht) hopen hstage hgathers' hmore⟩
    · -- All three are there: the graph is assembled and published.
      rw [respond_ok_of_last ht haccepts hmore]
      exact ⟨0, hsome, phase_of_joined hassembles hs.sent (lt_length_of_task? ht) hstage hgathers'
        fun _ => isPending_of_none hmore⟩

theorem Phase.settle_self (h : Phase setup reply focal k s n)
    (hassembles : Assembles setup reply focal) (hs : s.Sound) (e : Endpoint) :
    ∃ m, Phase setup reply focal k (s.respond setup (.settle k e (reply e))) m ∧
      (s.accepts (.settle k e (reply e)) = true → m < n) := by
  by_cases haccepts : s.accepts (.settle k e (reply e)) = true
  · obtain ⟨u, hu, hopen, hany⟩ := accepts_settle_iff.mp haccepts
    cases h with
    | lookingUp ht hreply hfocal =>
      obtain rfl := Option.some.inj (ht.symm.trans hu)
      have he : .functionDetail = e := by
        simpa [isOpen, Fetch.isPending, Fetch.endpoint, Client.Call.endpoint] using hany
      subst he
      obtain ⟨m, hm, hphase⟩ := phase_of_lookedUp hs ht hreply hfocal
      exact ⟨m, hphase, fun _ => Nat.lt_succ_of_le hm⟩
    | gathering ht hopen hstage hgathers =>
      obtain ⟨m, hm, hphase⟩ :=
        phase_of_gathered hassembles hs ht hopen hstage hgathers haccepts
      exact ⟨m, hphase, fun _ => hm⟩
    | ended ht hended =>
      rw [Option.some.inj (hu.symm.trans ht), hended] at hopen
      contradiction
  · rw [respond, step_of_not_accepts haccepts, settled_of_sent hs.sent]
    exact ⟨n, h, fun h => absurd h haccepts⟩

theorem Phase.run (h : Phase setup reply focal k s n) (hassembles : Assembles setup reply focal)
    (hs : s.Sound) {replies : Nat → Replies} (hk : replies k = reply) {events : List Event}
    (hanswers : ∀ event ∈ events, ∃ i e, event = .settle i e (replies i e)) :
    ∃ m, Phase setup reply focal k (s.run setup events) m := by
  -- The load is in some phase after each event; only its own answers change which one.
  induction events generalizing s n with
  | nil => exact ⟨n, h⟩
  | cons event events ih =>
    obtain ⟨i, e, rfl⟩ := hanswers event List.mem_cons_self
    have hnext : ∃ m, Phase setup reply focal k
        (s.respond setup (.settle i e (replies i e))) m := by
      by_cases hi : i = k
      · subst hi
        rw [hk]
        obtain ⟨m, hm, -⟩ := h.settle_self hassembles hs e
        exact ⟨m, hm⟩
      · exact ⟨n, h.of_other hs hi e _⟩
    obtain ⟨m, hm⟩ := hnext
    exact ih hm (hs.respond setup _) fun event hevent =>
      hanswers event (List.mem_cons_of_mem _ hevent)

theorem Phase.shown_of_closed (h : Phase setup reply focal k s n)
    (hclosed : ∀ t, s.task? k = some t → ∀ f ∈ t.fetches, f.isPending = false) :
    s.shown = (loaded setup reply focal).toOption := by
  cases h with
  | lookingUp ht =>
    have hpending := hclosed _ ht _ List.mem_cons_self
    contradiction
  | gathering ht hopen hstage hgathers hsome =>
    obtain ⟨f, hf, hpending⟩ := List.any_eq_true.mp hsome
    rw [hclosed _ ht f hf] at hpending
    contradiction
  | ended _ _ _ _ hshown => exact hshown

theorem Phase.closed_or_accepts (h : Phase setup reply focal k s n) :
    (∀ t, s.task? k = some t → ∀ f ∈ t.fetches, f.isPending = false) ∨
      ∃ e, s.accepts (.settle k e (reply e)) = true := by
  cases h with
  | lookingUp ht =>
    exact Or.inr ⟨.functionDetail, accepts_settle_iff.mpr ⟨_, ht, rfl, rfl⟩⟩
  | gathering ht hopen hstage hgathers hsome =>
    obtain ⟨f, hf, hpending⟩ := List.any_eq_true.mp hsome
    refine Or.inr ⟨f.endpoint, accepts_settle_iff.mpr ⟨_, ht, hopen, ?_⟩⟩
    exact List.any_eq_true.mpr ⟨f, hf, by simp [isOpen, hpending]⟩
  | ended ht _ _ hclosed =>
    refine Or.inl fun u hu => ?_
    rwa [Option.some.inj (hu.symm.trans ht)]

theorem Phase.complete (h : Phase setup reply focal k s n)
    (hassembles : Assembles setup reply focal) (hs : s.Sound) :
    ∃ endpoints : List Endpoint, ∀ t,
      (s.run setup (endpoints.map fun e => .settle k e (reply e))).task? k = some t →
        ∀ f ∈ t.fetches, f.isPending = false := by
  -- Every answer that is accepted leaves fewer to come.
  induction n using Nat.strong_induction_on generalizing s with
  | _ n ih =>
    rcases h.closed_or_accepts with hclosed | ⟨e, haccepts⟩
    · exact ⟨[], hclosed⟩
    · obtain ⟨m, hphase, hless⟩ := h.settle_self hassembles hs e
      obtain ⟨endpoints, hclosed⟩ := ih m (hless haccepts) hphase (hs.respond setup _)
      exact ⟨e :: endpoints, hclosed⟩

theorem phase_of_start (hs : s.Sound) {load : Event} (hfocus : Focuses reply load focal) :
    ∃ m, Phase setup reply focal s.tasks.length (s.respond setup load) m := by
  have hothers (stage : Stage) (fetches : List Fetch) (j : Nat) (u : Task)
      (hj : j ≠ s.tasks.length)
      (hu : ({ s with generation := s.generation + 1 }.add stage fetches).task? j = some u) :
      u.unsent? = none :=
    hs.sent j u (task?_add_of_ne _ hj stage fetches ▸ hu)
  cases hfocus with
  | explore focal =>
    have hahead : ∀ f ∈ ([] : List Fetch), f.endpoint = .functionDetail ∧ f.isPending = false :=
      fun f hf => absurd hf List.not_mem_nil
    have hbegun : ∃ m ≤ 3, Phase setup reply focal s.tasks.length
        (s.step setup (.explore focal)).settled m :=
      phase_of_begun (task?_add_self { s with generation := s.generation + 1 } _ _) rfl rfl rfl
        hahead (hothers _ _)
    obtain ⟨m, -, hphase⟩ := hbegun
    exact ⟨m, hphase⟩
  | @exploreId id row focal hreply hfocal =>
    have hself := task?_add_self { s with generation := s.generation + 1 }
      (.detail (s.generation + 1)) [⟨.functionDetail id, .pending⟩]
    have hwritable : (⟨.functionDetail id, .pending⟩ : Fetch).unwritable? = none := by
      unfold received at hreply
      split at hreply
      · contradiction
      · assumption
    rw [received_of_writable hwritable] at hreply
    have hsent : Task.unsent? { stage := .detail (s.generation + 1),
                                fetches := [⟨.functionDetail id, .pending⟩] } = none := by
      simp [Task.unsent?, Fetch.isPending, hwritable]
    have hsettled : s.respond setup (.exploreId id) = s.step setup (.exploreId id) :=
      settled_of_sent (.of_others hself hsent (hothers _ _))
    rw [hsettled]
    exact ⟨4, .lookingUp hself hreply (FunctionNode.ofJson_eq_ok_iff.mpr ⟨row, rfl, hfocal⟩)⟩

end Phase

theorem length_settled (s : State) : s.settled.tasks.length = s.tasks.length := by
  have hdrop (s : State) (t : Task) (i : Nat) :
      (s.dropUnsent t i).tasks.length = s.tasks.length := by
    unfold dropUnsent
    split
    · rfl
    · simp [fail, replace]
  have hfold {f : State → Task × Nat → State}
      (hf : ∀ s p, (f s p).tasks.length = s.tasks.length) (tasks : List (Task × Nat)) (r : State) :
      (tasks.foldl f r).tasks.length = r.tasks.length := by
    induction tasks generalizing r with
    | nil => rfl
    | cons p ps ih => exact (ih _).trans (hf r p)
  exact hfold (fun s p => hdrop s p.1 p.2) _ s

theorem Acts.length {setup : Setup} {event : Event} {s s' : State} {i : Nat}
    (h : Acts setup event i s s') (hi : i < s.tasks.length) :
    s'.tasks.length = s.tasks.length := by
  cases h with
  | load hi' | loadFile hi' => omega
  | fail | drop => simp [State.fail, replace]
  | _ => exact List.length_set

theorem length_respond_settle (setup : Setup) (s : State) (i : Nat) (e : Endpoint)
    (r : Except Failure Json) :
    (s.respond setup (.settle i e r)).tasks.length = s.tasks.length := by
  rw [respond, length_settled]
  cases ht : s.task? i with
  | none => simp [step, ht]
  | some t =>
    rcases step_acts setup s (.settle i e r) with hidle | hacts
    · rw [hidle]
    · exact hacts.length (lt_length_of_task? ht)

end State

def Event.startsGraph : Event → Bool
  | .explore _ | .exploreId _ => true
  | _ => false

/-- Events that start these loads, in this order, and answer requests, each load's by its own
answers. An answer to a request that is not open changes nothing. -/
structure Interleaves (replies : Nat → Replies) (loads events : List Event) : Prop where
  starts : events.filter Event.startsGraph = loads
  answers : ∀ event ∈ events, event.startsGraph = false →
    ∃ i e, event = .settle i e (replies i e)

namespace State

variable {setup : Setup} {replies : Nat → Replies}

theorem length_run {events : List Event}
    (h : ∀ event ∈ events, event.startsGraph = false → ∃ i e, event = .settle i e (replies i e))
    (s : State) :
    (s.run setup events).tasks.length =
      s.tasks.length + (events.filter Event.startsGraph).length := by
  induction events generalizing s with
  | nil => rfl
  | cons event events ih =>
    have hrest := ih (fun x hx => h x (List.mem_cons_of_mem _ hx)) (s.respond setup event)
    have hrun : s.run setup (event :: events) = (s.respond setup event).run setup events := rfl
    rw [hrun, hrest]
    cases hstarts : event.startsGraph with
    | true =>
      rw [List.filter_cons_of_pos hstarts, List.length_cons, respond, length_settled]
      cases event with
      | explore | exploreId =>
        simp only [step, add, List.length_append, List.length_singleton]
        omega
      | _ => contradiction
    | false =>
      obtain ⟨i, e, rfl⟩ := h event List.mem_cons_self hstarts
      rw [List.filter_cons_of_neg (by simp [hstarts]), length_respond_settle]

theorem phase_of_interleaves {loads events : List Event} {last : Event} {focal : FunctionNode}
    (hruns : Interleaves replies (loads ++ [last]) events)
    (hfocus : Focuses (replies loads.length) last focal)
    (hassembles : Assembles setup (replies loads.length) focal) :
    ∃ n, Phase setup (replies loads.length) focal loads.length
      (({} : State).run setup events) n := by
  obtain ⟨hstarts, hanswers⟩ := hruns
  -- What happens before the last load starts only matters for the number of tasks.
  obtain ⟨before, rest, rfl, hbefore, hrest⟩ := List.filter_eq_append_iff.mp hstarts
  obtain ⟨idle, after, rfl, hidle, -, hafter⟩ := List.filter_eq_cons_iff.mp hrest
  rw [← List.append_assoc] at hanswers ⊢
  have hsound := sound_fresh.run setup (before ++ idle)
  have hlength : (({} : State).run setup (before ++ idle)).tasks.length = loads.length := by
    have hnone : idle.filter Event.startsGraph = [] := List.filter_eq_nil_iff.mpr hidle
    rw [length_run fun x hx => hanswers x (List.mem_append_left _ hx), List.filter_append, hbefore,
      hnone, List.append_nil]
    exact Nat.zero_add _
  obtain ⟨n, hphase⟩ : ∃ n, Phase setup _ focal _ (State.respond setup _ last) n :=
    phase_of_start hsound hfocus
  rw [hlength] at hphase
  rw [run_append]
  refine hphase.run hassembles (hsound.respond setup last) rfl fun event hevent => ?_
  apply hanswers event (List.mem_append_right _ (List.mem_cons_of_mem _ hevent))
  simpa using List.filter_eq_nil_iff.mp hafter event hevent

theorem shown_of_quiet {loads events : List Event} {last : Event} {focal : FunctionNode}
    (hruns : Interleaves replies (loads ++ [last]) events)
    (hquiet : (({} : State).run setup events).Quiet)
    (hfocus : Focuses (replies loads.length) last focal)
    (hassembles : Assembles setup (replies loads.length) focal) :
    (({} : State).run setup events).shown =
      (loaded setup (replies loads.length) focal).toOption := by
  obtain ⟨n, hphase⟩ := phase_of_interleaves hruns hfocus hassembles
  exact hphase.shown_of_closed fun t ht => hquiet _ t ht

theorem exists_alone {reply : Replies} {load : Event} {focal : FunctionNode}
    (hstarts : load.startsGraph = true) (hfocus : Focuses reply load focal)
    (hassembles : Assembles setup reply focal) :
    ∃ alone, Interleaves (fun _ => reply) [load] alone ∧ (({} : State).run setup alone).Quiet := by
  obtain ⟨n, hphase⟩ : ∃ n, Phase setup reply focal 0 (({} : State).respond setup load) n :=
    phase_of_start sound_fresh hfocus
  obtain ⟨endpoints, hclosed⟩ := hphase.complete hassembles (sound_fresh.respond setup load)
  have hanswers : ∀ event ∈ endpoints.map fun e => Event.settle 0 e (reply e),
      event.startsGraph = false ∧ ∃ i e, event = .settle i e (reply e) := by
    intro event hevent
    obtain ⟨e, -, rfl⟩ := List.mem_map.mp hevent
    exact ⟨rfl, 0, e, rfl⟩
  have hruns : Interleaves (fun _ => reply) [load]
      (load :: endpoints.map fun e => .settle 0 e (reply e)) := by
    constructor
    · rw [List.filter_cons_of_pos hstarts, List.filter_eq_nil_iff.mpr]
      intro event hevent
      simp [(hanswers event hevent).1]
    · intro event hevent hother
      rcases List.mem_cons.mp hevent with rfl | hevent
      · rw [hstarts] at hother
        contradiction
      · exact (hanswers event hevent).2
  refine ⟨_, hruns, fun i t ht => ?_⟩
  have hi : i = 0 := by
    have hlt := lt_length_of_task? ht
    rw [length_run hruns.answers, hruns.starts] at hlt
    simp only [List.length_nil, List.length_singleton] at hlt
    omega
  subst hi
  exact hclosed t ht

end State

open State

/-- In whichever order the loads are started among the answers and requests are answered: once none
is open any more, what the load started last has got is on display. That is what this load alone
leaves on a fresh explorer. -/
theorem shown_of_interleaves (setup : Setup) (replies : Nat → Replies) (loads : List Event)
    (last : Event) (focal : FunctionNode) (events : List Event)
    (hruns : Interleaves replies (loads ++ [last]) events)
    (hquiet : (({} : State).run setup events).Quiet)
    (hfocus : Focuses (replies loads.length) last focal)
    (hassembles : Assembles setup (replies loads.length) focal) :
    LoadsTo setup (replies loads.length) focal (({} : State).run setup events).shown ∧
    (∃ alone, Interleaves (fun _ => replies loads.length) [last] alone ∧
      (({} : State).run setup alone).Quiet) ∧
    ∀ alone, Interleaves (fun _ => replies loads.length) [last] alone →
      (({} : State).run setup alone).Quiet →
      (({} : State).run setup alone).shown = (({} : State).run setup events).shown := by
  have hshown := shown_of_quiet hruns hquiet hfocus hassembles
  have hstarts : last.startsGraph = true := by
    cases hfocus <;> rfl
  refine ⟨hshown ▸ loadsTo_loaded hassembles, exists_alone hstarts hfocus hassembles,
    fun alone halone hquiet' => ?_⟩
  have halone' : Interleaves (fun _ => replies loads.length) ([] ++ [last]) alone := halone
  rw [shown_of_quiet halone' hquiet' hfocus hassembles, hshown]

theorem assembles_social : Assembles {} social gathered.focal := by
  rintro _ _ _ ⟨⟩ ⟨⟩ ⟨⟩
  have htyped : Graph.Material.Typed gathered := by
    constructor <;> simp [gathered]
  exact ⟨_, graphOf_eq_ok_iff.mp (Graph.assemble?_eq_ok rfl htyped)⟩

def crossing : List Event :=
  [.explore { id := "a" }, .settle 0 .callers (lonely .callers), .exploreId (.text "b"),
    .settle 1 .functionDetail (social .functionDetail), .settle 1 .callers (social .callers),
    .settle 0 .neighborhood (lonely .neighborhood), .settle 1 .callChain (social .callChain),
    .settle 1 .neighborhood (social .neighborhood), .settle 0 .callChain (lonely .callChain)]

theorem shown_of_interleaves_of_crossing :
    (({} : State).run {} crossing).shown =
      some ({ id := "b", name := .text "Bind", file := .text "bind.go" },
        Graph.assemble {} 60 gathered) ∧
    (Graph.assemble {} 60 gathered).nodes.map
        (fun n => (n.id, n.name.text?, n.file.text?, n.depth)) =
      [("c", some "Call", some "call.go", 1), ("m", some "Main", some "main.go", 3),
        ("e", some "Emit", some "emit.go", 2), ("b", some "Bind", some "bind.go", 0)] := by
  have hruns : Interleaves (fun i => if i = 0 then lonely else social)
      ([.explore { id := "a" }] ++ [.exploreId (.text "b")]) crossing := by
    refine ⟨rfl, fun event hevent hother => ?_⟩
    simp only [crossing, List.mem_cons, List.not_mem_nil, or_false] at hevent
    rcases hevent with rfl | rfl | rfl | rfl | rfl | rfl | rfl | rfl | rfl
    all_goals first
      | exact ⟨_, _, rfl⟩
      | contradiction
  have hquiet : (({} : State).run {} crossing).Quiet := by
    decide +kernel
  have hfocus : Focuses social (.exploreId (.text "b")) gathered.focal :=
    .exploreId rfl (FunctionNode.reads_iff.mpr rfl)
  obtain ⟨hloads, -⟩ :=
    shown_of_interleaves {} _ _ _ _ _ hruns hquiet hfocus assembles_social
  obtain ⟨graph, ⟨around, callees, into, hn, hc, hr, hgraph⟩, hshown⟩ :=
    hloads.assembled _ _ _ rfl rfl rfl
  obtain rfl := hn.unique (nodesOf_eq_ok_iff.mp rfl)
  obtain rfl := hc.unique (nodesOf_eq_ok_iff.mp rfl)
  obtain rfl := hr.unique (nodesOf_eq_ok_iff.mp rfl)
  obtain rfl := Graph.eq_assemble_of_assemble?_eq_ok hgraph
  exact ⟨hshown, by decide +kernel⟩

end CallAtlas.Explorer
