import CallAtlas.Proofs.Explorer.Requests

/-! What a failed load leaves on display. A load of the latest generation that has asked for a graph
clears the display when one of its requests fails. A look-up that fails, and an answer that cannot
be read, leave it as it was. -/
namespace CallAtlas.Explorer

open Http (Endpoint)
open Relation (ReflTransGen)

namespace State

variable {setup : Setup} {event : Event} {s s' : State} {i : Nat}

def Current (s : State) : Prop :=
  ∀ i t, s.task? i = some t → t.stage.loadsGraph = true → s.LastGraph i →
    t.generation = s.generation

theorem lastGraph_of_acts (h : ReflTransGen (Acts setup event i) s s') {j : Nat}
    (hlast : s'.LastGraph j) : s.LastGraph j := by
  intro k u hjk hu
  by_contra hgraph
  obtain ⟨u', hu', hgraph'⟩ := loadsGraph_of_acts h hu (by simpa using hgraph)
  rw [hlast k u' hjk hu'] at hgraph'
  contradiction

theorem Acts.current (h : Acts setup event i s s') (ho : s.Ordered) (hs : s.Current) :
    s'.Current := by
  obtain ⟨t, ht, hcases⟩ := h.stage_cases
  intro j u hu hgraph hlast
  have hlast' := lastGraph_of_acts (.single h) hlast
  by_cases hj : j = i
  · subst hj
    obtain rfl := Option.some.inj (hu.symm.trans ht)
    rcases hcases with ⟨hg, v, hv, hstage⟩ | ⟨-, -, hfile⟩ | ⟨-, hg, hg', -⟩
    · rw [Task.generation, hstage, hg]
      exact hs j v hv (hstage ▸ hgraph) hlast'
    · rw [hfile] at hgraph
      contradiction
    · rw [hg, hg']
  · have hu' := h.task?_of_ne hj ▸ hu
    rcases hcases with ⟨hg, -⟩ | ⟨hg, -, -⟩ | ⟨hnew, -, -, hdetail⟩
    · rw [hg]
      exact hs j u hu' hgraph hlast'
    · rw [hg]
      exact hs j u hu' hgraph hlast'
    · -- Of two loads the one with the new generation was started last.
      rcases Nat.lt_or_gt_of_ne hj with hlt | hgt
      · rw [hlast i t hlt ht] at hnew
        contradiction
      · rw [lastGraph_of_detail ho hdetail j u hgt hu'] at hgraph
        contradiction

theorem current_of_acts (h : ReflTransGen (Acts setup event i) s s') (ho : s.Ordered)
    (hs : s.Current) : s'.Current := by
  induction h with
  | refl => exact hs
  | tail hacts hact ih => exact hact.current (ordered_of_acts hacts ho) ih

/-- What holds between two events of a run, all of it. -/
structure Steady (s : State) : Prop extends Sound s where
  healthy : s.Healthy
  current : s.Current

theorem Steady.respond (h : s.Steady) (setup : Setup) (event : Event) :
    (s.respond setup event).Steady := by
  obtain ⟨hacts, hsent⟩ := respond_acts setup h.sent event
  exact ⟨h.toSound.respond setup event, healthy_of_acts hacts h.healthy,
    current_of_acts hacts h.ordered h.current⟩

theorem steady_run (setup : Setup) (events : List Event) :
    (({} : State).run setup events).Steady := by
  induction events using List.reverseRecOn with
  | nil =>
    have hnone (i : Nat) (t : Task) : ({} : State).task? i ≠ some t := by simp [task?]
    exact ⟨sound_fresh, fun i t ht => absurd ht (hnone i t), fun i t ht => absurd ht (hnone i t)⟩
  | append_singleton events event ih =>
    rw [run_concat]
    exact ih.respond setup event

/-- A task fails because of a request, and then clears what it may, or once all its answers are
there, and then changes nothing. -/
theorem Acts.failed (h : Acts setup event i s s') (hs : s.Healthy) {t : Task} {e : Failure}
    (ht : s'.task? i = some t) (hfailed : t.outcome = .failed e) :
    s'.generation = s.generation ∧
      (t.Joined ∧ s'.display = s.display ∨ ¬t.Joined ∧ s'.display = (s.clear t).display) := by
  cases h with
  | load hi | loadFile hi =>
    subst hi
    obtain rfl := Option.some.inj (ht.symm.trans (task?_add_self _ _ _))
    contradiction
  | wait hu hopen | enter hu hopen =>
    obtain rfl := Option.some.inj (ht.symm.trans (task?_replace_self hu))
    simp only at hfailed
    simp [Task.isPending, hfailed] at hopen
  | cancel hu | stale hu | publish hu | publishFile hu =>
    obtain rfl := Option.some.inj (ht.symm.trans (task?_replace_self hu))
    contradiction
  | refuse hu hopen hlatest hlast =>
    obtain rfl := Option.some.inj (ht.symm.trans (task?_replace_self hu))
    have hunderway := hlast.underway (hs _ _ hu hopen)
    exact ⟨rfl, Or.inl ⟨(Task.joined_finish _ _).mpr (hunderway.joined hlast.2), rfl⟩⟩
  | fail hu hopen hsettles =>
    obtain rfl := Option.some.inj (ht.symm.trans (task?_fail hu _ _))
    have hmissing := (hs _ _ hu hopen).not_joined_of_failed hsettles
    exact ⟨generation_clear _ _, Or.inr ⟨mt (Task.joined_finish _ _).mp hmissing, rfl⟩⟩
  | drop hu hopen hlatest hunsent hfetches =>
    subst hfetches
    obtain rfl := Option.some.inj (ht.symm.trans (task?_fail hu _ _))
    have hmissing := (hs _ _ hu hopen).not_joined_of_unsent hunsent
    exact ⟨generation_clear _ _, Or.inr ⟨mt (Task.joined_finish _ _).mp hmissing, rfl⟩⟩

theorem failed_of_ends (h : s.Steady) {t : Task} {e : Failure}
    (hends : Ends s (s.respond setup event) i t) (hfailed : t.outcome = .failed e) :
    ∃ b : State, b.display = s.display ∧ (s.respond setup event).generation = b.generation ∧
      (t.Joined ∧ (s.respond setup event).display = b.display ∨
        ¬t.Joined ∧ (s.respond setup event).display = (b.clear t).display) := by
  obtain ⟨hacts, -⟩ := respond_acts setup h.sent event
  obtain rfl := eq_of_ends hacts hends
  obtain ⟨b, hbefore, hact, hsame⟩ := exists_last_act hacts hends
  exact ⟨b, hsame, hact.failed (healthy_of_acts hbefore h.healthy) hends.1 hfailed⟩

theorem failed_of_accepts (hs : s.Steady) (setup : Setup) (i : Nat) (place : Endpoint)
    (e : Failure) (h : s.accepts (.settle i place (.error e)) = true) :
    ∃ t, Ends s (s.respond setup (.settle i place (.error e))) i t ∧ t.outcome = .failed e ∧
      ¬t.Joined ∧ place ∈ t.stage.endpoints := by
  obtain ⟨u, hu, hopen, hany⟩ := accepts_settle_iff.mp h
  have hunderway := hs.healthy i u hu hopen
  have hsettles : Settles (.settle i place (.error e)) i u (.error e)
      (u.fetches.map (answered place (.error e))) := ⟨place, rfl, hany, rfl⟩
  rw [respond_error hu hs.sent h]
  refine ⟨_, ⟨task?_fail hu _ e, rfl, fun v hv => ?_⟩, rfl, ?_, ?_⟩
  · rwa [Option.some.inj (hv.symm.trans hu)]
  · exact mt (Task.joined_finish _ _).mp (hunderway.not_joined_of_failed hsettles)
  · obtain ⟨f, hf, hf'⟩ := List.any_eq_true.mp hany
    simp only [isOpen, Bool.and_eq_true, beq_iff_eq] at hf'
    exact hf'.1 ▸ hunderway.awaited f hf hf'.2

end State

open State

/-- The load that was started last ends because of one of its requests: nothing is on display once
it has asked for a graph, while a failed look-up leaves on display what was there. -/
theorem display_of_failed_request (setup : Setup) (events : List Event) (event : Event) (i : Nat)
    (t : Task) (e : Failure) :
    let s := ({} : State).run setup events
    let s' := s.respond setup event
    Ends s s' i t → t.outcome = .failed e → ¬t.Joined → s'.LastGraph i →
      (∀ g focal, t.stage = .graph g focal → s'.display = none) ∧
      ∀ g, t.stage = .detail g → s'.display = s.display := by
  intro s s' hends hfailed hmissing hlast
  have hsteady : s.Steady := steady_run setup events
  have hcurrent := (hsteady.respond setup event).current i t hends.1
  obtain ⟨b, hsame, hg, ⟨hjoined, -⟩ | ⟨-, hdisplay⟩⟩ := failed_of_ends hsteady hends hfailed
  · exact absurd hjoined hmissing
  · rw [hdisplay]
    constructor
    · intro g focal hstage
      have hlatest := hcurrent (by rw [hstage]; rfl) hlast
      rw [hg, Task.generation, hstage] at hlatest
      obtain rfl : g = b.generation := hlatest
      exact display_clear_latest hstage
    · intro g hstage
      rw [clear, hstage, hsame]

theorem lastGraph_of_length {s : State} {i : Nat} (h : s.tasks.length = i + 1) :
    s.LastGraph i := by
  intro j u hij hu
  have hlt := lt_length_of_task? hu
  omega

def loadedThen (next : Event) : List Event :=
  [.explore { id := "a" }, .settle 0 .neighborhood (.ok (.object [])),
    .settle 0 .callChain (.ok (.object [])), .settle 0 .callers (.ok (.object [])), next]

def unknown : Failure :=
  .answered 404 "Not Found" "Function not found: b"

/-- A graph is asked for, and the older one is gone once the callers are not found. -/
theorem display_of_failed_request_of_callers :
    (({} : State).run {} (loadedThen (.explore { id := "b" }))).display.isSome = true ∧
      ((({} : State).run {} (loadedThen (.explore { id := "b" }))).respond {}
        (.settle 1 .callers (.error unknown))).display = none := by
  obtain ⟨t, hends, hfailed, hmissing, hplace⟩ :=
    failed_of_accepts (steady_run {} (loadedThen (.explore { id := "b" }))) {} 1 .callers unknown
      (by decide +kernel)
  have hdisplay := (display_of_failed_request {} (loadedThen (.explore { id := "b" }))
    (.settle 1 .callers (.error unknown)) 1 t unknown hends hfailed hmissing
    (lastGraph_of_length (by decide +kernel))).1
  refine ⟨by decide +kernel, ?_⟩
  cases hstage : t.stage with
  | graph g focal => exact hdisplay g focal hstage
  | detail | file => simp [hstage, Stage.endpoints] at hplace

/-- A function is looked up that is not found: without any cancellation the older graph stays on
display. -/
theorem not_cleared_of_failed_look_up :
    ¬∀ (setup : Setup) (events : List Event) (event : Event) (i : Nat) (t : Task) (e : Failure),
      let s := ({} : State).run setup events
      let s' := s.respond setup event
      (∀ j, .cancel j ∉ events ++ [event]) → Ends s s' i t → t.stage.loadsGraph = true →
        t.outcome = .failed e → ¬t.Joined → s'.LastGraph i → s'.display = none := by
  intro hclears
  have hshown : ((({} : State).run {} (loadedThen (.exploreId (.text "b")))).respond {}
      (.settle 1 .functionDetail (.error unknown))).display.isSome = true := by
    decide +kernel
  obtain ⟨t, hends, hfailed, hmissing, hplace⟩ :=
    failed_of_accepts (steady_run {} (loadedThen (.exploreId (.text "b")))) {} 1 .functionDetail
      unknown (by decide +kernel)
  have hgraph : t.stage.loadsGraph = true := by
    cases hstage : t.stage with
    | detail | graph => rfl
    | file => simp [hstage, Stage.endpoints] at hplace
  rw [hclears {} (loadedThen (.exploreId (.text "b"))) (.settle 1 .functionDetail (.error unknown))
    1 t unknown (by simp [loadedThen]) hends hgraph hfailed hmissing
    (lastGraph_of_length (by decide +kernel))] at hshown
  contradiction

end CallAtlas.Explorer
