import CallAtlas.Proofs.Explorer.Answers
import CallAtlas.Proofs.Explorer.Latest
import Mathlib.Data.List.Induction

/-! The requests of a task. While it is under way, a task has asked for what its stage needs, for
nothing twice, and none of its requests has failed. Every answer on record was brought by an event
while its request was open. -/
namespace CallAtlas.Explorer

open Http (Endpoint)
open Relation (ReflTransGen)

def Stage.endpoints : Stage → List Endpoint
  | .detail _ => [.functionDetail]
  | .graph .. => [.neighborhood, .callChain, .callers]
  | .file .. => [.file, .fileFunctions]

inductive Stage.Asks : Stage → List Client.Call → Prop
  | detail (g : Nat) (id : Json) : Asks (.detail g) [.functionDetail id]
  | graph (g : Nat) (focal : FunctionNode) :
    Asks (.graph g focal) ((graphFetches focal).map Fetch.call)
  /-- The function was looked up before. -/
  | lookedUp (g : Nat) (id : Json) (focal : FunctionNode) :
    Asks (.graph g focal) (.functionDetail id :: (graphFetches focal).map Fetch.call)
  | file (g : Nat) (path : Json) : Asks (.file g path) ((fileFetches path).map Fetch.call)

namespace Stage.Asks

variable {stage : Stage} {calls : List Client.Call}

theorem nodup (h : stage.Asks calls) : (calls.map Client.Call.endpoint).Nodup := by
  cases h <;> simp [graphFetches, fileFetches, Client.Call.endpoint]

theorem exists_call (h : stage.Asks calls) {e : Endpoint} (he : e ∈ stage.endpoints) :
    ∃ c ∈ calls, c.endpoint = e := by
  rw [← List.mem_map]
  cases h <;> simp_all [endpoints, graphFetches, fileFetches, Client.Call.endpoint]

theorem of_detail {g : Nat} (h : (Stage.detail g).Asks calls) :
    ∃ id, calls = [.functionDetail id] := by
  cases h with
  | detail _ id => exact ⟨id, rfl⟩

theorem mem_of_graph {g : Nat} {focal : FunctionNode} (h : (Stage.graph g focal).Asks calls)
    {f : Fetch} (hf : f ∈ graphFetches focal) : f.call ∈ calls := by
  have hcall : f.call ∈ (graphFetches focal).map Fetch.call := List.mem_map_of_mem hf
  cases h with
  | graph => exact hcall
  | lookedUp => exact List.mem_cons_of_mem _ hcall

end Stage.Asks

@[simp] theorem Fetch.endpoint_cancel (f : Fetch) : f.cancel.endpoint = f.endpoint := by
  unfold cancel
  split <;> rfl

namespace Task

/-- All that the stage has asked for has come, and none of it is a failure. -/
def Joined (t : Task) : Prop :=
  ∀ e ∈ t.stage.endpoints, ∃ f ∈ t.fetches, f.endpoint = e ∧ ∃ v, f.reply? = some (.ok v)

def Holds (t : Task) (call : Client.Call) (v : Json) : Prop :=
  ∃ f ∈ t.fetches, f.call = call ∧ f.reply? = some (.ok v)

/-- What holds of a task as long as it has not ended. -/
structure Underway (t : Task) : Prop where
  asks : t.stage.Asks (t.fetches.map Fetch.call)
  awaited : ∀ f ∈ t.fetches, f.isPending = true → f.endpoint ∈ t.stage.endpoints
  unfailed : ∀ f ∈ t.fetches, f.isPending = true ∨ ∃ v, f.reply? = some (.ok v)

@[simp] theorem joined_finish (t : Task) (outcome : Outcome) :
    (t.finish outcome).Joined ↔ t.Joined := by
  simp [Joined, finish]

theorem Holds.finish {t : Task} {call : Client.Call} {v : Json} (h : t.Holds call v)
    (outcome : Outcome) : (t.finish outcome).Holds call v := by
  obtain ⟨f, hf, hcall, hreply⟩ := h
  refine ⟨f.cancel, List.mem_map_of_mem hf, ?_, by rw [Fetch.reply?_cancel, hreply]⟩
  rw [Fetch.cancel, if_neg (by simp [Fetch.isPending_of_reply? hreply]), hcall]

theorem mem_of_mem_finish {t : Task} {outcome : Outcome} {f : Fetch}
    {reply : Except Failure Json} (hf : f ∈ (t.finish outcome).fetches)
    (hreply : f.reply? = some reply) : f ∈ t.fetches := by
  obtain ⟨g, hg, rfl⟩ := List.mem_map.mp hf
  rw [Fetch.reply?_cancel] at hreply
  rwa [Fetch.cancel, if_neg (by simp [Fetch.isPending_of_reply? hreply])]

namespace Underway

variable {t : Task} {event : Event} {i : Nat} {fetches : List Fetch}

theorem eq_of_endpoint (h : t.Underway) {f g : Fetch} (hf : f ∈ t.fetches) (hg : g ∈ t.fetches)
    (hsame : f.endpoint = g.endpoint) : f = g := by
  have hnodup := h.asks.nodup
  rw [List.map_map] at hnodup
  exact List.inj_on_of_nodup_map hnodup hf hg hsame

theorem of_begins {stage : Stage} (h : State.Begins event stage fetches) :
    Underway { stage, fetches } := by
  cases h with
  | explore g focal =>
    refine ⟨.graph g focal, ?_, ?_⟩ <;>
      simp [graphFetches, Stage.endpoints, Fetch.endpoint, Client.Call.endpoint, Fetch.isPending]
  | exploreId g id =>
    refine ⟨.detail g id, ?_, ?_⟩ <;>
      simp [Stage.endpoints, Fetch.endpoint, Client.Call.endpoint, Fetch.isPending]
  | loadFile g path =>
    refine ⟨.file g path, ?_, ?_⟩ <;>
      simp [fileFetches, Stage.endpoints, Fetch.endpoint, Client.Call.endpoint, Fetch.isPending]

theorem settles (h : t.Underway) {v : Json} (hs : State.Settles event i t (.ok v) fetches) :
    Underway { t with fetches } := by
  have hless := fun f => hs.mem_of_pending (f := f)
  obtain ⟨e, -, -, rfl⟩ := hs
  refine ⟨?_, fun f hf hopen => h.awaited f (hless f hf hopen) hopen, fun f hf => ?_⟩
  · have hcalls : (t.fetches.map (State.answered e (.ok v))).map Fetch.call =
        t.fetches.map Fetch.call := by
      simp [List.map_map, Function.comp_def]
    rw [hcalls]
    exact h.asks
  · obtain ⟨g, hg, rfl⟩ := List.mem_map.mp hf
    unfold State.answered
    split
    · exact Or.inr ⟨v, rfl⟩
    · exact h.unfailed g hg

theorem enter (h : t.Underway) {g g' : Nat} (hstage : t.stage = .detail g)
    (hclosed : ∀ f ∈ t.fetches, f.isPending = false) (focal : FunctionNode) :
    Underway { t with stage := .graph g' focal, fetches := t.fetches ++ graphFetches focal } := by
  refine ⟨?_, fun f hf hopen => ?_, fun f hf => ?_⟩
  · have hasks := h.asks
    rw [hstage] at hasks
    obtain ⟨id, hid⟩ := hasks.of_detail
    rw [List.map_append, hid]
    exact .lookedUp g' id focal
  · rcases List.mem_append.mp hf with hf | hf
    · rw [hclosed f hf] at hopen
      contradiction
    · exact (of_begins (.explore g' focal)).awaited f hf hopen
  · rcases List.mem_append.mp hf with hf | hf
    · exact h.unfailed f hf
    · exact (of_begins (.explore g' focal)).unfailed f hf

theorem answer (h : t.Underway) (hclosed : ∀ f ∈ t.fetches, f.isPending = false)
    {c : Client.Call} (hc : c ∈ t.fetches.map Fetch.call) :
    t.Holds c (t.payload c.endpoint) := by
  obtain ⟨f, hf, rfl⟩ := List.mem_map.mp hc
  obtain ⟨v, hv⟩ := (h.unfailed f hf).resolve_left (by simp [hclosed f hf])
  have hfind : t.fetches.find? (·.endpoint == f.endpoint) = some f := by
    obtain ⟨g, hg⟩ : ∃ g, t.fetches.find? (·.endpoint == f.endpoint) = some g :=
      Option.isSome_iff_exists.mp (List.find?_isSome.mpr ⟨f, hf, beq_self_eq_true _⟩)
    have hsame : g.endpoint = f.endpoint := by simpa using List.find?_some hg
    rwa [h.eq_of_endpoint (List.mem_of_find?_eq_some hg) hf hsame] at hg
  have hpayload : t.payload f.endpoint = v := payload_eq hfind hv
  exact ⟨f, hf, rfl, by rw [hv, ← hpayload]; rfl⟩

theorem joined (h : t.Underway) (hclosed : ∀ f ∈ t.fetches, f.isPending = false) : t.Joined := by
  intro e he
  obtain ⟨c, hc, rfl⟩ := h.asks.exists_call he
  obtain ⟨f, hf, rfl, hreply⟩ := h.answer hclosed hc
  exact ⟨f, hf, rfl, _, hreply⟩

theorem not_joined_of_failed (h : t.Underway) {e : Failure}
    (hs : State.Settles event i t (.error e) fetches) : ¬Joined { t with fetches } := by
  obtain ⟨place, -, hany, rfl⟩ := hs
  obtain ⟨f, hf, hopen⟩ := List.any_eq_true.mp hany
  intro hjoined
  obtain ⟨g', hg', hsame, v, hv⟩ := hjoined f.endpoint
    (h.awaited f hf (Bool.and_eq_true_iff.mp hopen).2)
  obtain ⟨g, hg, rfl⟩ := List.mem_map.mp hg'
  have hcall := congrArg Client.Call.endpoint (State.call_answered place (.error e) g)
  obtain rfl : g = f := h.eq_of_endpoint hg hf (hcall.symm.trans hsame)
  simp [State.answered, if_pos hopen, Fetch.reply?] at hv

theorem not_joined_of_unsent (h : t.Underway) {e : Failure} (hunsent : t.unsent? = some e) :
    ¬Joined { t with fetches := t.fetches.filter (!·.isPending) } := by
  obtain ⟨f, hf, -⟩ := List.exists_of_findSome?_eq_some hunsent
  obtain ⟨hf, hopen⟩ := List.mem_filter.mp hf
  intro hjoined
  obtain ⟨g, hg, hsame, -⟩ := hjoined f.endpoint (h.awaited f hf hopen)
  obtain ⟨hg, hclosed⟩ := List.mem_filter.mp hg
  rw [h.eq_of_endpoint hg hf hsame, hopen] at hclosed
  contradiction

end Underway
end Task

namespace State

variable {setup : Setup} {event : Event} {s s' : State} {i : Nat}

def Healthy (s : State) : Prop :=
  ∀ i t, s.task? i = some t → t.isPending = true → t.Underway

theorem Completes.underway {t : Task} {fetches : List Fetch} (h : Completes event i t fetches)
    (ht : t.Underway) : Task.Underway { t with fetches } := by
  obtain ⟨⟨v, hsettles⟩, -⟩ := h
  exact ht.settles hsettles

theorem Acts.healthy (h : Acts setup event i s s') (hs : s.Healthy) : s'.Healthy := by
  intro j t ht hopen
  by_cases hj : j = i
  · subst hj
    rcases h.task_cases with ⟨stage, fetches, -, hnew, hbegins⟩ | ⟨u, t', hu, ht', hu', hbecomes⟩
    · obtain rfl := Option.some.inj (ht.symm.trans hnew)
      exact .of_begins hbegins
    · obtain rfl := Option.some.inj (ht.symm.trans ht')
      have hunderway := hs j u hu hu'
      cases hbecomes with
      | waiting hsettles => exact hunderway.settles hsettles
      | ended hremains outcome hended =>
        rw [hended] at hopen
        contradiction
      | entered focal hstage hlast =>
        exact (hlast.underway hunderway).enter hstage hlast.2 focal
  · exact hs j t (h.task?_of_ne hj ▸ ht) hopen

theorem healthy_of_acts (h : ReflTransGen (Acts setup event i) s s') (hs : s.Healthy) :
    s'.Healthy := by
  induction h with
  | refl => exact hs
  | tail _ hact ih => exact hact.healthy ih

/-- Task `i` had an answered request before, or an event brings it the answer while it is open. -/
def Accounts (event : Event) (s : State) (i : Nat) (f : Fetch) (reply : Except Failure Json) :
    Prop :=
  ∃ t, s.task? i = some t ∧ (f ∈ t.fetches ∨
    event = .settle i f.endpoint reply ∧ t.isPending = true ∧ ⟨f.call, .pending⟩ ∈ t.fetches)

variable {f : Fetch} {r : Except Failure Json}

theorem Settles.accounts {t : Task} {reply : Except Failure Json} {fetches : List Fetch}
    (h : Settles event i t reply fetches) (ht : s.task? i = some t) (hopen : t.isPending = true)
    (hf : f ∈ fetches) (hr : f.reply? = some r) : Accounts event s i f r := by
  refine ⟨t, ht, ?_⟩
  obtain ⟨e, hevent, -, rfl⟩ := h
  obtain ⟨⟨call, progress⟩, hg, rfl⟩ := List.mem_map.mp hf
  by_cases hasked : isOpen e ⟨call, progress⟩ = true
  · rw [answered, if_pos hasked] at hr ⊢
    obtain rfl := Option.some.inj hr
    simp only [isOpen, Bool.and_eq_true, beq_iff_eq] at hasked
    obtain ⟨rfl, hpending⟩ := hasked
    cases progress with
    | pending => exact Or.inr ⟨hevent, hopen, hg⟩
    | answered | cancelled => contradiction
  · rw [answered, if_neg hasked]
    exact Or.inl hg

theorem Remains.accounts {t : Task} {fetches : List Fetch} (h : Remains event i t fetches)
    (ht : s.task? i = some t) (hopen : t.isPending = true) (hf : f ∈ fetches)
    (hr : f.reply? = some r) : Accounts event s i f r := by
  cases h with
  | unchanged => exact ⟨t, ht, Or.inl hf⟩
  | settled hsettles => exact hsettles.accounts ht hopen hf hr
  | dropped => exact ⟨t, ht, Or.inl (List.mem_of_mem_filter hf)⟩

theorem Acts.accounts (h : Acts setup event i s s') {t : Task} (ht : s'.task? i = some t)
    (hf : f ∈ t.fetches) (hr : f.reply? = some r) : Accounts event s i f r := by
  have hclosed := Fetch.isPending_of_reply? hr
  rcases h.task_cases with ⟨stage, fetches, -, hnew, hbegins⟩ | ⟨u, t', hu, ht', hopen, hbecomes⟩
  · obtain rfl := Option.some.inj (ht.symm.trans hnew)
    rw [hbegins.isPending f hf] at hclosed
    contradiction
  · obtain rfl := Option.some.inj (ht.symm.trans ht')
    cases hbecomes with
    | waiting hsettles => exact hsettles.accounts hu hopen hf hr
    | ended hremains =>
      exact hremains.accounts hu hopen (Task.mem_of_mem_finish hf hr) hr
    | entered focal hstage hlast =>
      obtain ⟨⟨v, hsettles⟩, -⟩ := hlast
      rcases List.mem_append.mp hf with hf | hf
      · exact hsettles.accounts hu hopen hf hr
      · rw [(Begins.explore 0 focal).isPending f hf] at hclosed
        contradiction

theorem mem_of_mem_dropUnsent {t u : Task} (ht : s.task? i = some t)
    (hu : (s.dropUnsent t i).task? i = some u) (hf : f ∈ u.fetches) (hr : f.reply? = some r) :
    f ∈ t.fetches := by
  unfold dropUnsent at hu
  split at hu
  · rwa [Option.some.inj (ht.symm.trans hu)]
  · obtain rfl := Option.some.inj (hu.symm.trans (task?_fail ht _ _))
    exact List.mem_of_mem_filter (Task.mem_of_mem_finish hf hr)

theorem accounts_of_respond (hsent : s.Sent) {t : Task}
    (ht : (s.respond setup event).task? i = some t) (hf : f ∈ t.fetches)
    (hr : f.reply? = some r) : Accounts event s i f r := by
  by_cases hi : i = s.actor event
  · subst hi
    rw [respond] at ht
    rcases step_acts setup s event with hidle | hact
    · rw [hidle, settled_of_sent hsent] at ht
      exact ⟨t, ht, Or.inl hf⟩
    · obtain ⟨u, hu, hdropped⟩ := hact.settled_eq hsent
      rw [hdropped] at ht
      exact hact.accounts hu (mem_of_mem_dropUnsent hu ht hf hr) hr
  · rw [task?_of_acts_of_ne (respond_acts setup hsent event).1 hi] at ht
    exact ⟨t, ht, Or.inl hf⟩

end State

/-- An event of the run has brought the reply to a call of task `i`, while the request was open. -/
def Brought (setup : Setup) (events : List Event) (i : Nat) (call : Client.Call)
    (reply : Except Failure Json) : Prop :=
  ∃ before after t, events = before ++ .settle i call.endpoint reply :: after ∧
    (({} : State).run setup before).task? i = some t ∧ t.isPending = true ∧
    ⟨call, .pending⟩ ∈ t.fetches

section Runs

open State

variable {setup : Setup} {events : List Event} {i : Nat}

theorem run_concat (setup : Setup) (s : State) (events : List Event) (event : Event) :
    s.run setup (events ++ [event]) = (s.run setup events).respond setup event :=
  run_append setup s events [event]

theorem Brought.later {call : Client.Call} {reply : Except Failure Json}
    (h : Brought setup events i call reply) (event : Event) :
    Brought setup (events ++ [event]) i call reply := by
  obtain ⟨before, after, t, rfl, ht⟩ := h
  exact ⟨before, after ++ [event], t, by simp, ht⟩

theorem brought_of_reply {t : Task} {f : Fetch} {r : Except Failure Json}
    (ht : (({} : State).run setup events).task? i = some t) (hf : f ∈ t.fetches)
    (hr : f.reply? = some r) : Brought setup events i f.call r := by
  -- The last event has brought the reply, or it was on record before.
  induction events using List.reverseRecOn generalizing t f with
  | nil => simp [State.run, task?] at ht
  | append_singleton events event ih =>
    rw [run_concat] at ht
    have hsent := (sound_fresh.run setup events).sent
    obtain ⟨u, hu, hf' | ⟨rfl, hopen, hf'⟩⟩ := accounts_of_respond hsent ht hf hr
    · exact (ih hu hf' hr).later event
    · exact ⟨events, [], u, rfl, hu, hopen, hf'⟩

end Runs
end CallAtlas.Explorer
