import CallAtlas.Proofs.Explorer.Acts

/-! Loads are numbered by generations, and only one of the latest generation changes what is on
display. That is the load started last: the generations of loads grow in the order in which the
loads were started, and no load ever gets back to the latest one. -/
namespace CallAtlas.Explorer

open Relation (ReflTransGen)

namespace State

variable {setup : Setup} {event : Event} {s s' : State} {i : Nat}

theorem Acts.isPending (h : Acts setup event i s s') {t : Task} (ht : s.task? i = some t) :
    t.isPending = true := by
  cases h with
  | load hi | loadFile hi =>
    have hlt := lt_length_of_task? ht
    omega
  | wait hu hopen | cancel hu hopen | fail hu hopen | drop hu hopen | stale hu hopen
  | refuse hu hopen | enter hu hopen | publish hu hopen | publishFile hu hopen =>
    rwa [Option.some.inj (ht.symm.trans hu)]

theorem Acts.generation_le (h : Acts setup event i s s') : s.generation ≤ s'.generation := by
  cases h with
  | load | enter => exact Nat.le_succ _
  | fail | drop => exact Nat.le_of_eq (generation_clear _ _).symm
  | _ => exact Nat.le_refl _

theorem Acts.stage_cases (h : Acts setup event i s s') :
    ∃ t, s'.task? i = some t ∧
      ((s'.generation = s.generation ∧ ∃ u, s.task? i = some u ∧ t.stage = u.stage) ∨
        (s'.generation = s.generation ∧ s.task? i = none ∧ t.stage.loadsGraph = false) ∨
        (t.stage.loadsGraph = true ∧ t.generation = s.generation + 1 ∧
          s'.generation = s.generation + 1 ∧ ∀ u, s.task? i = some u →
            u.stage = .detail s.generation)) := by
  cases h with
  | load hi hgraph hgeneration =>
    subst hi
    refine ⟨_, task?_add_self _ _ _, Or.inr (Or.inr ⟨hgraph, hgeneration, rfl, fun u hu => ?_⟩)⟩
    exact absurd (lt_length_of_task? hu) (Nat.lt_irrefl _)
  | loadFile hi =>
    subst hi
    have hnone : s.task? s.tasks.length = none := List.getElem?_eq_none (Nat.le_refl _)
    exact ⟨_, task?_add_self _ _ _, Or.inr (Or.inl ⟨rfl, hnone, rfl⟩)⟩
  | wait ht | cancel ht | stale ht | refuse ht | publish ht | publishFile ht =>
    exact ⟨_, task?_replace_self ht, Or.inl ⟨rfl, _, ht, rfl⟩⟩
  | fail ht | drop ht =>
    exact ⟨_, task?_fail ht _ _, Or.inl ⟨generation_clear _ _, _, ht, rfl⟩⟩
  | enter ht hopen hstage =>
    refine ⟨_, task?_replace_self ht, Or.inr (Or.inr ⟨rfl, rfl, rfl, fun u hu => ?_⟩)⟩
    rwa [Option.some.inj (hu.symm.trans ht)]

end State

/-- What a load leaves on display that has just ended and was the latest. -/
def Task.Leaves (t : Task) : Option Display → Prop
  | none => ∃ e, t.outcome = .failed e
  | some d => t.outcome = .published ∧ t.stage = .graph d.generation d.focal

/-- A load that ends like this has not been seen: nothing came of it, or one of its own requests
failed. -/
def Task.EndsUnseen (t : Task) : Prop :=
  match t.outcome with
  | .stale | .cancelled => True
  | .failed e => ∃ f ∈ t.fetches, f.reply? = some (.error e)
  | .pending | .published => False

namespace State

variable {setup : Setup} {event : Event} {s s' : State} {i : Nat}

theorem Acts.display_cases (h : Acts setup event i s s') :
    s'.display = s.display ∨ ∃ t, s'.task? i = some t ∧ t.isPending = false ∧
      t.stage.loadsGraph = true ∧ t.generation = s'.generation ∧ t.Leaves s'.display := by
  cases h with
  | fail ht | drop ht =>
    rcases display_clear s _ with hsame | ⟨hnone, focal, hstage⟩
    · exact Or.inl hsame
    · refine Or.inr ⟨_, task?_fail ht _ _, rfl, ?_, ?_, ?_⟩
      · rw [Task.finish, hstage]
        rfl
      · rw [State.fail, generation_replace, generation_clear, Task.generation, Task.finish, hstage]
      · rw [State.fail, display_replace, hnone]
        exact ⟨_, rfl⟩
  | publish ht hopen hstage =>
    refine Or.inr ⟨_, task?_replace_self ht, rfl, ?_, ?_, rfl, hstage⟩
    · rw [Task.finish, hstage]
      rfl
    · rw [Task.generation, Task.finish, hstage]
      rfl
  | _ => exact Or.inl rfl

theorem Acts.published_cases (h : Acts setup event i s s') {t : Task} (ht : s'.task? i = some t)
    (hgraph : t.stage.loadsGraph = true) (hpublished : t.outcome = .published) :
    ∃ u fetches focal graph, s.task? i = some u ∧ u.isPending = true ∧
      u.stage = .graph s.generation focal ∧ Completes event i u fetches ∧
      graphOf setup focal (Task.payload { u with fetches } .neighborhood)
        (Task.payload { u with fetches } .callChain)
        (Task.payload { u with fetches } .callers) = .ok graph ∧
      t = Task.finish { u with fetches } .published ∧ s'.generation = s.generation ∧
      s'.display = some ⟨s.generation, focal, graph⟩ := by
  cases h with
  | load hi | loadFile hi =>
    subst hi
    obtain rfl := Option.some.inj (ht.symm.trans (task?_add_self _ _ _))
    contradiction
  | wait hu hopen | enter hu hopen =>
    obtain rfl := Option.some.inj (ht.symm.trans (task?_replace_self hu))
    simp only at hpublished
    simp [Task.isPending, hpublished] at hopen
  | cancel hu | stale hu | refuse hu =>
    obtain rfl := Option.some.inj (ht.symm.trans (task?_replace_self hu))
    contradiction
  | fail hu | drop hu =>
    obtain rfl := Option.some.inj (ht.symm.trans (task?_fail hu _ _))
    contradiction
  | publish hu hopen hstage hlast hjoined =>
    obtain rfl := Option.some.inj (ht.symm.trans (task?_replace_self hu))
    exact ⟨_, _, _, _, hu, hopen, hstage, hlast, hjoined, rfl, rfl, rfl⟩
  | publishFile hu hopen hstage =>
    obtain rfl := Option.some.inj (ht.symm.trans (task?_replace_self hu))
    rw [Task.finish, hstage] at hgraph
    contradiction

theorem Acts.published (h : Acts setup event i s s') {t : Task} (ht : s'.task? i = some t)
    (hgraph : t.stage.loadsGraph = true) (hpublished : t.outcome = .published) :
    t.generation = s'.generation ∧ ∃ d, s'.display = some d ∧ t.Leaves (some d) := by
  obtain ⟨u, fetches, focal, graph, -, -, hstage, -, -, rfl, hg, hdisplay⟩ :=
    h.published_cases ht hgraph hpublished
  refine ⟨?_, _, hdisplay, rfl, hstage⟩
  rw [hg, Task.generation, Task.finish, hstage]

theorem Acts.of_other (h : Acts setup event i s s') {t : Task} (ht : s.task? i = some t)
    (hother : ¬(t.stage.loadsGraph = true ∧ t.generation = s.generation)) :
    s'.generation = s.generation ∧ s'.display = s.display ∧
      ∃ t', s'.task? i = some t' ∧ t'.stage = t.stage := by
  obtain ⟨t', ht', hcases⟩ := h.stage_cases
  have hkept : s'.generation = s.generation ∧ t'.stage = t.stage := by
    rcases hcases with ⟨hg, u, hu, hstage⟩ | ⟨-, hnone, -⟩ | ⟨-, -, -, hdetail⟩
    · obtain rfl := Option.some.inj (ht.symm.trans hu)
      exact ⟨hg, hstage⟩
    · rw [ht] at hnone
      contradiction
    · have hstage := hdetail t ht
      exact absurd ⟨by rw [hstage]; rfl, by rw [Task.generation, hstage]⟩ hother
  refine ⟨hkept.1, ?_, t', ht', hkept.2⟩
  rcases h.display_cases with hsame | ⟨u, hu, -, hgraph, hg, -⟩
  · exact hsame
  · obtain rfl := Option.some.inj (hu.symm.trans ht')
    rw [hkept.1, Task.generation, hkept.2] at hg
    exact absurd ⟨hkept.2 ▸ hgraph, hg⟩ hother

theorem Acts.unseen (h : Acts setup event i s s') {t t' : Task} (ht : s.task? i = some t)
    (hgraph : t.stage.loadsGraph = true) (hold : t.generation ≠ s.generation)
    (ht' : s'.task? i = some t') (hended : t'.isPending = false) : t'.EndsUnseen := by
  have hlatest : s.latest t = s.generation := if_pos hgraph
  cases h with
  | load hi | loadFile hi =>
    have hlt := lt_length_of_task? ht
    omega
  | wait hu hopen =>
    obtain rfl := Option.some.inj (ht'.symm.trans (task?_replace_self hu))
    exact absurd hopen (by simpa [Task.isPending] using hended)
  | cancel hu | stale hu =>
    obtain rfl := Option.some.inj (ht'.symm.trans (task?_replace_self hu))
    trivial
  | fail hu hopen hsettles =>
    obtain rfl := Option.some.inj (ht'.symm.trans (task?_fail hu _ _))
    obtain ⟨f, hf, hreply⟩ := hsettles.exists_reply
    exact ⟨_, List.mem_map_of_mem hf, (Fetch.reply?_cancel f).trans hreply⟩
  | drop hu hopen hcurrent | refuse hu hopen hcurrent =>
    obtain rfl := Option.some.inj (ht.symm.trans hu)
    exact absurd (hcurrent.trans hlatest) hold
  | enter hu hopen hstage | publish hu hopen hstage =>
    obtain rfl := Option.some.inj (ht.symm.trans hu)
    simp [Task.generation, hstage] at hold
  | publishFile hu hopen hstage =>
    obtain rfl := Option.some.inj (ht.symm.trans hu)
    simp [hstage, Stage.loadsGraph] at hgraph

structure Ordered (s : State) : Prop where
  bounded : ∀ i t, s.task? i = some t → t.stage.loadsGraph = true → t.generation ≤ s.generation
  increasing : ∀ i j t u, i < j → s.task? i = some t → s.task? j = some u →
    t.stage.loadsGraph = true → u.stage.loadsGraph = true → t.generation < u.generation

/-- No graph has been asked for since this task was started. -/
def LastGraph (s : State) (i : Nat) : Prop :=
  ∀ j u, i < j → s.task? j = some u → u.stage.loadsGraph = false

theorem Ordered.lastGraph (h : s.Ordered) {t : Task} (ht : s.task? i = some t)
    (hgraph : t.stage.loadsGraph = true) (hlatest : t.generation = s.generation) :
    s.LastGraph i := by
  intro j u hij hu
  by_contra hu'
  have hlt := h.increasing i j t u hij ht hu hgraph (by simpa using hu')
  have hle := h.bounded j u hu (by simpa using hu')
  omega

theorem Ordered.eq_of_generation (h : s.Ordered) {j : Nat} {t u : Task} (ht : s.task? i = some t)
    (hu : s.task? j = some u) (hgraph : t.stage.loadsGraph = true)
    (hgraph' : u.stage.loadsGraph = true) (hsame : t.generation = u.generation) : i = j := by
  rcases Nat.lt_trichotomy i j with hlt | heq | hgt
  · exact absurd hsame (Nat.ne_of_lt (h.increasing i j t u hlt ht hu hgraph hgraph'))
  · exact heq
  · exact absurd hsame.symm (Nat.ne_of_lt (h.increasing j i u t hgt hu ht hgraph' hgraph))

theorem lastGraph_of_detail (ho : s.Ordered)
    (h : ∀ t, s.task? i = some t → t.stage = .detail s.generation) : s.LastGraph i := by
  cases hi : s.task? i with
  | none =>
    intro j u hij hu
    have hlt := lt_length_of_task? hu
    have hle := List.getElem?_eq_none_iff.mp hi
    omega
  | some t =>
    have hstage := h t hi
    exact ho.lastGraph hi (by rw [hstage]; rfl) (by rw [Task.generation, hstage])

/-- A task that loads a graph keeps its generation, or has the new one and is then the last of
them. -/
theorem Acts.graph_origin (h : Acts setup event i s s') (ho : s.Ordered) {j : Nat} {t : Task}
    (ht : s'.task? j = some t) (hgraph : t.stage.loadsGraph = true) :
    (∃ u, s.task? j = some u ∧ u.stage.loadsGraph = true ∧ t.generation = u.generation) ∨
      (j = i ∧ t.generation = s.generation + 1 ∧ s'.generation = s.generation + 1 ∧
        s.LastGraph i) := by
  by_cases hj : j = i
  · subst hj
    obtain ⟨t', ht', hcases⟩ := h.stage_cases
    obtain rfl := Option.some.inj (ht.symm.trans ht')
    rcases hcases with ⟨-, u, hu, hstage⟩ | ⟨-, -, hfile⟩ | ⟨-, hg, hg', hdetail⟩
    · refine Or.inl ⟨u, hu, hstage ▸ hgraph, ?_⟩
      simp [Task.generation, hstage]
    · rw [hfile] at hgraph
      contradiction
    · exact Or.inr ⟨rfl, hg, hg', lastGraph_of_detail ho hdetail⟩
  · exact Or.inl ⟨t, (h.task?_of_ne hj).symm.trans ht, hgraph, rfl⟩

theorem Acts.ordered (h : Acts setup event i s s') (ho : s.Ordered) : s'.Ordered := by
  constructor
  · intro j t ht hgraph
    have hle := h.generation_le
    rcases h.graph_origin ho ht hgraph with ⟨u, hu, hu', hg⟩ | ⟨-, hg, hg', -⟩
    · have hbound := ho.bounded j u hu hu'
      omega
    · omega
  · intro j k t u hjk ht hu hgraph hgraph'
    rcases h.graph_origin ho ht hgraph with ⟨v, hv, hv', hg⟩ | ⟨hj, hg, -, hlast⟩ <;>
      rcases h.graph_origin ho hu hgraph' with ⟨w, hw, hw', hg'⟩ | ⟨hk, hg', -, -⟩
    · have hlt := ho.increasing j k v w hjk hv hw hv' hw'
      omega
    · have hbound := ho.bounded j v hv hv'
      omega
    · rw [hlast k w (hj ▸ hjk) hw] at hw'
      contradiction
    · omega

/-- A task that was not there or still under way, and is so no longer. -/
def Ends (s s' : State) (i : Nat) (t : Task) : Prop :=
  s'.task? i = some t ∧ t.isPending = false ∧ ∀ u, s.task? i = some u → u.isPending = true

section Sequence

variable (h : ReflTransGen (Acts setup event i) s s')
include h

theorem generation_le_of_acts : s.generation ≤ s'.generation := by
  induction h with
  | refl => exact Nat.le_refl _
  | tail _ hact ih => exact Nat.le_trans ih hact.generation_le

theorem ordered_of_acts (ho : s.Ordered) : s'.Ordered := by
  induction h with
  | refl => exact ho
  | tail _ hact ih => exact hact.ordered ih

theorem task?_of_acts_of_ne {j : Nat} (hj : j ≠ i) : s'.task? j = s.task? j := by
  induction h with
  | refl => rfl
  | tail _ hact ih => exact (hact.task?_of_ne hj).trans ih

theorem task?_of_ended {j : Nat} {t : Task} (ht : s.task? j = some t)
    (hended : t.isPending = false) : s'.task? j = some t := by
  induction h with
  | refl => exact ht
  | tail _ hact ih =>
    by_cases hj : j = i
    · subst hj
      rw [hact.isPending ih] at hended
      contradiction
    · rw [hact.task?_of_ne hj, ih]

theorem loadsGraph_of_acts {j : Nat} {t : Task} (ht : s.task? j = some t)
    (hgraph : t.stage.loadsGraph = true) :
    ∃ t', s'.task? j = some t' ∧ t'.stage.loadsGraph = true := by
  induction h with
  | refl => exact ⟨t, ht, hgraph⟩
  | tail _ hact ih =>
    obtain ⟨u, hu, hgraph'⟩ := ih
    by_cases hj : j = i
    · subst hj
      obtain ⟨t', ht', hcases⟩ := hact.stage_cases
      refine ⟨t', ht', ?_⟩
      rcases hcases with ⟨-, v, hv, hstage⟩ | ⟨-, hnone, -⟩ | ⟨hnew, -⟩
      · rwa [hstage, Option.some.inj (hv.symm.trans hu)]
      · rw [hu] at hnone
        contradiction
      · exact hnew
    · exact ⟨u, (hact.task?_of_ne hj).trans hu, hgraph'⟩

theorem ends_of_display_ne (hchange : s'.display ≠ s.display) :
    ∃ t, Ends s s' i t ∧ t.stage.loadsGraph = true ∧ t.generation = s'.generation ∧
      t.Leaves s'.display := by
  induction h with
  | refl => contradiction
  | @tail b c hacts hact ih =>
    have hopen : ∀ u, s.task? i = some u → u.isPending = true := by
      intro u hu
      by_contra hu'
      have hstays := task?_of_ended hacts hu (by simpa using hu')
      exact hu' (hact.isPending hstays)
    rcases hact.display_cases with hsame | ⟨t, ht, hended, hgraph, hlatest, hleaves⟩
    · -- An earlier act would have ended the task, which could not have acted again.
      obtain ⟨t, ⟨ht, hended, -⟩, -⟩ := ih (hsame ▸ hchange)
      rw [hact.isPending ht] at hended
      contradiction
    · exact ⟨t, ⟨ht, hended, hopen⟩, hgraph, hlatest, hleaves⟩

/-- A task ends by its last act, and nothing on display has changed before. -/
theorem exists_last_act {t : Task} (hends : Ends s s' i t) :
    ∃ b, ReflTransGen (Acts setup event i) s b ∧ Acts setup event i b s' ∧
      b.display = s.display := by
  obtain ⟨ht, hended, hopen⟩ := hends
  rcases h.cases_tail with rfl | ⟨b, hacts, hact⟩
  · rw [hopen t ht] at hended
    contradiction
  · refine ⟨b, hacts, hact, ?_⟩
    by_contra hchange
    obtain ⟨u, ⟨hu, hended', -⟩, -⟩ := ends_of_display_ne hacts hchange
    rw [hact.isPending hu] at hended'
    contradiction

theorem other_of_acts {t : Task} (ht : s.task? i = some t)
    (hother : ¬(t.stage.loadsGraph = true ∧ t.generation = s.generation)) :
    s'.generation = s.generation ∧ s'.display = s.display ∧
      ∃ t', s'.task? i = some t' ∧ t'.stage = t.stage := by
  -- The stage stays, and with it the generation that is too old.
  induction h with
  | refl => exact ⟨rfl, rfl, t, ht, rfl⟩
  | @tail b c _ hact ih =>
    obtain ⟨hgeneration, hdisplay, u, hu, hstage⟩ := ih
    have hother' : ¬(u.stage.loadsGraph = true ∧ u.generation = b.generation) := by
      rwa [hstage, Task.generation, hstage, hgeneration]
    obtain ⟨hgeneration', hdisplay', t', ht', hstage'⟩ := hact.of_other hu hother'
    exact ⟨hgeneration'.trans hgeneration, hdisplay'.trans hdisplay, t', ht',
      hstage'.trans hstage⟩

theorem unseen_of_acts {t t' : Task} (ht : s.task? i = some t)
    (hgraph : t.stage.loadsGraph = true) (hold : t.generation ≠ s.generation)
    (hends : Ends s s' i t') : t'.EndsUnseen := by
  obtain ⟨b, hacts, hact, -⟩ := exists_last_act h hends
  obtain ⟨hgeneration, -, u, hu, hstage⟩ := other_of_acts hacts ht fun hsame => hold hsame.2
  have hold' : u.generation ≠ b.generation := by
    rwa [Task.generation, hstage, hgeneration]
  exact hact.unseen hu (hstage ▸ hgraph) hold' hends.1 hends.2.1

theorem eq_of_ends {j : Nat} {t : Task} (hends : Ends s s' j t) : j = i := by
  by_contra hj
  obtain ⟨ht, hended, hopen⟩ := hends
  rw [hopen t (task?_of_acts_of_ne h hj ▸ ht)] at hended
  contradiction

theorem published_of_acts {j : Nat} {t : Task} (hends : Ends s s' j t)
    (hgraph : t.stage.loadsGraph = true) (hpublished : t.outcome = .published) :
    t.generation = s'.generation ∧ ∃ d, s'.display = some d ∧ t.Leaves (some d) := by
  obtain rfl := eq_of_ends h hends
  obtain ⟨b, -, hact, -⟩ := exists_last_act h hends
  exact hact.published hends.1 hgraph hpublished

end Sequence

/-- What holds between two events. -/
structure Sound (s : State) : Prop where
  sent : s.Sent
  ordered : s.Ordered

theorem Sound.respond (h : s.Sound) (setup : Setup) (event : Event) :
    (s.respond setup event).Sound := by
  obtain ⟨hacts, hsent⟩ := respond_acts setup h.sent event
  exact ⟨hsent, ordered_of_acts hacts h.ordered⟩

theorem Sound.run (h : s.Sound) (setup : Setup) (events : List Event) :
    (s.run setup events).Sound := by
  induction events generalizing s with
  | nil => exact h
  | cons event events ih => exact ih (h.respond setup event)

theorem sound_fresh : ({} : State).Sound := by
  have hnone (i : Nat) (t : Task) : ({} : State).task? i ≠ some t := by simp [task?]
  refine ⟨fun i t ht => absurd ht (hnone i t), fun i t ht => absurd ht (hnone i t), ?_⟩
  intro i j t u _ ht
  exact absurd ht (hnone i t)

theorem run_append (setup : Setup) (s : State) (before after : List Event) :
    s.run setup (before ++ after) = (s.run setup before).run setup after :=
  List.foldl_append

theorem task?_run_of_ended (h : s.Sound) (setup : Setup) (events : List Event) {t : Task}
    (ht : s.task? i = some t) (hended : t.isPending = false) :
    (s.run setup events).task? i = some t := by
  induction events generalizing s with
  | nil => exact ht
  | cons event events ih =>
    have hstep := task?_of_ended (respond_acts setup h.sent event).1 ht hended
    exact ih (h.respond setup event) hstep

theorem loadsGraph_run (h : s.Sound) (setup : Setup) (events : List Event) {t : Task}
    (ht : s.task? i = some t) (hgraph : t.stage.loadsGraph = true) :
    ∃ t', (s.run setup events).task? i = some t' ∧ t'.stage.loadsGraph = true := by
  induction events generalizing s t with
  | nil => exact ⟨t, ht, hgraph⟩
  | cons event events ih =>
    obtain ⟨u, hu, hgraph'⟩ := loadsGraph_of_acts (respond_acts setup h.sent event).1 ht hgraph
    exact ih (h.respond setup event) hu hgraph'

theorem display_respond_cancel (h : s.Sent) (setup : Setup) (i : Nat) :
    (s.respond setup (.cancel i)).display = s.display ∧
      (s.respond setup (.cancel i)).file = s.file := by
  unfold respond step
  dsimp only
  split
  · rename_i t ht
    split
    · have hsent : (s.replace i (t.finish .cancelled)).Sent := by
        refine .of_others (task?_replace_self ht) (Task.unsent?_finish _ _) fun j u hj hu => ?_
        exact h j u (task?_replace_of_ne s i _ hj ▸ hu)
      rw [settled_of_sent hsent]
      exact ⟨rfl, rfl⟩
    · rw [settled_of_sent h]
      exact ⟨rfl, rfl⟩
  · rw [settled_of_sent h]
    exact ⟨rfl, rfl⟩

theorem generation_lt_of_published (h : s.Sound) {j : Nat} {t u : Task} {event : Event}
    (hu : s.task? j = some u) (hended : u.isPending = false) (hgraph : u.stage.loadsGraph = true)
    (hends : Ends s (s.respond setup event) i t) (hgraph' : t.stage.loadsGraph = true)
    (hpublished : t.outcome = .published) : u.generation < t.generation := by
  obtain ⟨hacts, -⟩ := respond_acts setup h.sent event
  have hordered := ordered_of_acts hacts h.ordered
  have hu' := task?_of_ended hacts hu hended
  have hbound := hordered.bounded j u hu' hgraph
  obtain ⟨hlatest, -⟩ := published_of_acts hacts hends hgraph' hpublished
  -- A load that has ended is not published later, so the two are different tasks.
  have hne : i ≠ j := by
    rintro rfl
    rw [hends.2.2 u hu] at hended
    contradiction
  rcases Nat.lt_or_gt_of_ne hne with hlt | hgt
  · have hincreasing := hordered.increasing i j t u hlt hends.1 hu' hgraph' hgraph
    omega
  · exact hordered.increasing j i u t hgt hu' hends.1 hgraph hgraph'

theorem unseen_of_superseded (h : s.Sound) {j : Nat} {t u t' : Task} {event : Event} (hij : i < j)
    (ht : s.task? i = some t) (hu : s.task? j = some u) (hgraph : t.stage.loadsGraph = true)
    (hgraph' : u.stage.loadsGraph = true) (hends : Ends s (s.respond setup event) i t') :
    t'.EndsUnseen ∧ (s.respond setup event).display = s.display := by
  obtain ⟨hacts, -⟩ := respond_acts setup h.sent event
  obtain hactor := eq_of_ends hacts hends
  rw [← hactor] at hacts
  have hold : t.generation ≠ s.generation := by
    have hincreasing := h.ordered.increasing i j t u hij ht hu hgraph hgraph'
    have hbound := h.ordered.bounded j u hu hgraph'
    omega
  refine ⟨unseen_of_acts hacts ht hgraph hold hends, ?_⟩
  exact (other_of_acts hacts ht fun hsame => hold hsame.2).2.1

end State

open State

/-- Whatever happens, only the load started last changes what is on display, when it ends. Loads
that another one has followed end unseen, the generations of published graphs grow, and to cancel a
load changes nothing that is shown. -/
theorem latest_load_wins (setup : Setup) (events : List Event) (event : Event) :
    let s := ({} : State).run setup events
    let s' := s.respond setup event
    s.generation ≤ s'.generation ∧
    (s'.display ≠ s.display → ∃ i t, Ends s s' i t ∧ t.stage.loadsGraph = true ∧
      t.generation = s'.generation ∧ s'.LastGraph i ∧ t.Leaves s'.display) ∧
    (∀ before after, events = before ++ after → ∀ i j t u, i < j →
      (({} : State).run setup before).task? i = some t → t.stage.loadsGraph = true →
      (({} : State).run setup before).task? j = some u → u.stage.loadsGraph = true →
      ∀ t', Ends s s' i t' → t'.EndsUnseen ∧ s'.display = s.display) ∧
    (∀ i t, Ends s s' i t → t.stage.loadsGraph = true → t.outcome = .published →
      t.generation = s'.generation ∧ (∃ d, s'.display = some d ∧ t.Leaves (some d)) ∧
      ∀ before e after, events = before ++ e :: after → ∀ j u,
        Ends (({} : State).run setup before) (({} : State).run setup (before ++ [e])) j u →
        u.stage.loadsGraph = true → u.outcome = .published → u.generation < t.generation) ∧
    ∀ i, event = .cancel i → s'.display = s.display ∧ s'.file = s.file := by
  intro s s'
  have hsound : s.Sound := sound_fresh.run setup events
  obtain ⟨hacts, -⟩ := respond_acts setup hsound.sent event
  refine ⟨generation_le_of_acts hacts, ?_, ?_, ?_, ?_⟩
  · intro hchange
    obtain ⟨t, hends, hgraph, hlatest, hleaves⟩ := ends_of_display_ne hacts hchange
    have hlast := (hsound.respond setup event).ordered.lastGraph hends.1 hgraph hlatest
    exact ⟨_, t, hends, hgraph, hlatest, hlast, hleaves⟩
  · rintro before after rfl i j t u hij ht hgraph hu hgraph' t' hends
    have hbefore := sound_fresh.run setup before
    obtain ⟨v, hv, hvgraph⟩ := loadsGraph_run hbefore setup after ht hgraph
    obtain ⟨w, hw, hwgraph⟩ := loadsGraph_run hbefore setup after hu hgraph'
    rw [← run_append] at hv hw
    exact unseen_of_superseded hsound hij hv hw hvgraph hwgraph hends
  · intro i t hends hgraph hpublished
    obtain ⟨hlatest, hshown⟩ := published_of_acts hacts hends hgraph hpublished
    refine ⟨hlatest, hshown, ?_⟩
    rintro before e after rfl j u ⟨hu, hended, -⟩ hgraph' -
    have hmiddle := sound_fresh.run setup (before ++ [e])
    have hstays := task?_run_of_ended hmiddle setup after hu hended
    rw [← run_append, List.append_assoc, List.singleton_append] at hstays
    exact generation_lt_of_published hsound hstays hended hgraph' hends hgraph hpublished
  · rintro i rfl
    exact display_respond_cancel hsound.sent setup i

end CallAtlas.Explorer
