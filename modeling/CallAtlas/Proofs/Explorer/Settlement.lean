import CallAtlas.Proofs.Explorer.Failures

namespace CallAtlas.Explorer

open Http (Endpoint)
open Relation (ReflTransGen)

namespace Fetch

theorem eq_of_isPending {f : Fetch} (h : f.isPending = true) : f = ⟨f.call, .pending⟩ := by
  obtain ⟨call, progress⟩ := f
  cases progress with
  | pending => rfl
  | answered | cancelled => contradiction

theorem cancel_of_closed {f : Fetch} (h : f.isPending = false) : f.cancel = f := by
  rw [cancel, if_neg (by simp [h])]

end Fetch

structure Task.Tidy (t : Task) : Prop where
  nodup : (t.fetches.map Fetch.endpoint).Nodup
  closed : t.isPending = false → ∀ f ∈ t.fetches, f.isPending = false

namespace Task

theorem Underway.nodup {t : Task} (h : t.Underway) : (t.fetches.map Fetch.endpoint).Nodup := by
  have hnodup := h.asks.nodup
  rwa [List.map_map] at hnodup

theorem tidy_finish {t : Task} (h : (t.fetches.map Fetch.endpoint).Nodup) (outcome : Outcome) :
    (t.finish outcome).Tidy := by
  refine ⟨?_, fun _ f hf => pending_of_mem_finish hf⟩
  have hsame : Fetch.endpoint ∘ Fetch.cancel = Fetch.endpoint :=
    funext fun f => f.endpoint_cancel
  rwa [finish, List.map_map, hsame]

end Task

namespace State

variable {setup : Setup} {event : Event} {s s' : State} {i j : Nat} {t : Task} {f : Fetch}
  {call : Client.Call} {p q : Progress}

def Tidy (s : State) : Prop :=
  ∀ i t, s.task? i = some t → t.Tidy

theorem Settles.map_endpoint {reply : Except Failure Json} {fetches : List Fetch}
    (h : Settles event i t reply fetches) :
    fetches.map Fetch.endpoint = t.fetches.map Fetch.endpoint := by
  obtain ⟨e, -, -, rfl⟩ := h
  rw [List.map_map]
  exact List.map_congr_left fun f _ => congrArg Client.Call.endpoint (call_answered e reply f)

theorem Remains.nodup {fetches : List Fetch} (h : Remains event i t fetches)
    (ht : (t.fetches.map Fetch.endpoint).Nodup) : (fetches.map Fetch.endpoint).Nodup := by
  cases h with
  | unchanged => exact ht
  | settled hsettles => exact hsettles.map_endpoint ▸ ht
  | dropped => exact ht.sublist (List.filter_sublist.map _)

theorem Acts.tidy (h : Acts setup event i s s') (hs : s.Healthy) (htidy : s.Tidy) : s'.Tidy := by
  intro j t ht
  by_cases hj : j = i
  · subst hj
    by_cases hopen : t.isPending = true
    · refine ⟨(h.healthy hs j t ht hopen).nodup, fun hended => ?_⟩
      rw [hopen] at hended
      contradiction
    · rcases h.task_cases with ⟨stage, fetches, -, hnew, -⟩ | ⟨u, t', hu, ht', hopen', hbecomes⟩
      · obtain rfl := Option.some.inj (ht.symm.trans hnew)
        exact absurd rfl hopen
      · obtain rfl := Option.some.inj (ht.symm.trans ht')
        cases hbecomes with
        | waiting | entered => exact absurd hopen' hopen
        | ended hremains => exact Task.tidy_finish (hremains.nodup (htidy j u hu).nodup) _
  · exact htidy j t (h.task?_of_ne hj ▸ ht)

theorem tidy_of_acts (h : ReflTransGen (Acts setup event i) s s') (hs : s.Healthy)
    (htidy : s.Tidy) : s'.Tidy := by
  induction h with
  | refl => exact htidy
  | tail hacts hact ih => exact hact.tidy (healthy_of_acts hacts hs) ih

theorem Tidy.respond (h : s.Tidy) (hs : s.Steady) (setup : Setup) (event : Event) :
    (s.respond setup event).Tidy :=
  tidy_of_acts (respond_acts setup hs.sent event).1 hs.healthy h

theorem tidy_run (setup : Setup) (events : List Event) :
    (({} : State).run setup events).Tidy := by
  induction events using List.reverseRecOn with
  | nil =>
    intro i t ht
    simp [State.run, task?] at ht
  | append_singleton events event ih =>
    rw [run_concat]
    exact ih.respond (steady_run setup events) setup event

/-- Task `i` has made a call, and this is what has become of it. -/
def Records (s : State) (i : Nat) (call : Client.Call) (p : Progress) : Prop :=
  ∃ t, s.task? i = some t ∧ ⟨call, p⟩ ∈ t.fetches

theorem Tidy.eq_of_records (h : s.Tidy) (hp : s.Records i call p) (hq : s.Records i call q) :
    p = q := by
  obtain ⟨t, ht, hmem⟩ := hp
  obtain ⟨u, hu, hmem'⟩ := hq
  obtain rfl := Option.some.inj (ht.symm.trans hu)
  have hsame := List.inj_on_of_nodup_map (h i t ht).nodup hmem hmem' rfl
  exact congrArg Fetch.progress hsame

theorem Tidy.isPending_of_records (h : s.Tidy) (hopen : s.Records i call .pending)
    (ht : s.task? i = some t) : t.isPending = true := by
  obtain ⟨u, hu, hmem⟩ := hopen
  obtain rfl := Option.some.inj (ht.symm.trans hu)
  by_contra hended
  have hclosed := (h i t ht).closed (by simpa using hended) _ hmem
  contradiction

theorem records_of_others (hsent : s.Sent) (hi : i ≠ s.actor event) :
    (s.respond setup event).Records i call p ↔ s.Records i call p := by
  rw [Records, task?_of_acts_of_ne (respond_acts setup hsent event).1 hi, Records]

theorem records_of_idle (hsent : s.Sent) (hidle : s.step setup event = s) :
    s.respond setup event = s := by
  rw [respond, hidle, settled_of_sent hsent]

theorem mem_finish_of_closed (hf : f ∈ t.fetches) (hclosed : f.isPending = false)
    (outcome : Outcome) : f ∈ (t.finish outcome).fetches :=
  List.mem_map.mpr ⟨f, hf, Fetch.cancel_of_closed hclosed⟩

theorem Settles.mem_of_closed {reply : Except Failure Json} {fetches : List Fetch}
    (h : Settles event i t reply fetches) (hf : f ∈ t.fetches) (hclosed : f.isPending = false) :
    f ∈ fetches := by
  obtain ⟨e, -, -, rfl⟩ := h
  exact List.mem_map.mpr ⟨f, hf, answered_of_closed hclosed⟩

theorem Remains.mem_of_closed {fetches : List Fetch} (h : Remains event i t fetches)
    (hf : f ∈ t.fetches) (hclosed : f.isPending = false) : f ∈ fetches := by
  cases h with
  | unchanged => exact hf
  | settled hsettles => exact hsettles.mem_of_closed hf hclosed
  | dropped => exact List.mem_filter.mpr ⟨hf, by simp [hclosed]⟩

theorem Acts.mem_of_closed (h : Acts setup event i s s') (ht : s.task? i = some t)
    (hf : f ∈ t.fetches) (hclosed : f.isPending = false) :
    ∃ t', s'.task? i = some t' ∧ f ∈ t'.fetches := by
  rcases h.task_cases with ⟨stage, fetches, hnone, -⟩ | ⟨u, t', hu, ht', -, hbecomes⟩
  · rw [ht] at hnone
    contradiction
  · obtain rfl := Option.some.inj (ht.symm.trans hu)
    refine ⟨t', ht', ?_⟩
    cases hbecomes with
    | waiting hsettles => exact hsettles.mem_of_closed hf hclosed
    | ended hremains =>
      exact mem_finish_of_closed (hremains.mem_of_closed hf hclosed) hclosed _
    | entered focal hstage hlast =>
      obtain ⟨⟨v, hsettles⟩, -⟩ := hlast
      exact List.mem_append_left _ (hsettles.mem_of_closed hf hclosed)

theorem records_of_closed (h : ReflTransGen (Acts setup event j) s s') (hp : s.Records i call p)
    (hclosed : p ≠ .pending) : s'.Records i call p := by
  induction h with
  | refl => exact hp
  | tail _ hact ih =>
    obtain ⟨t, ht, hmem⟩ := ih
    by_cases hi : i = j
    · subst hi
      refine hact.mem_of_closed ht hmem ?_
      cases p with
      | pending => contradiction
      | answered | cancelled => rfl
    · exact ⟨t, (hact.task?_of_ne hi).trans ht, hmem⟩

/-- Task `i` has made this call. -/
def Asked (s : State) (i : Nat) (call : Client.Call) : Prop :=
  ∃ p, s.Records i call p

theorem Settles.exists_call {reply : Except Failure Json} {fetches : List Fetch}
    (h : Settles event i t reply fetches) (hf : f ∈ fetches) :
    ∃ g ∈ t.fetches, g.call = f.call := by
  obtain ⟨e, -, -, rfl⟩ := h
  obtain ⟨g, hg, rfl⟩ := List.mem_map.mp hf
  exact ⟨g, hg, (call_answered e reply g).symm⟩

theorem exists_call_of_mem_finish {outcome : Outcome} (hf : f ∈ (t.finish outcome).fetches) :
    ∃ g ∈ t.fetches, g.call = f.call := by
  obtain ⟨g, hg, rfl⟩ := List.mem_map.mp hf
  exact ⟨g, hg, by unfold Fetch.cancel; split <;> rfl⟩

theorem asked_of_call (ht : s.task? i = some t) (h : ∃ g ∈ t.fetches, g.call = f.call) :
    s.Asked i f.call := by
  obtain ⟨⟨call, p⟩, hg, rfl⟩ := h
  exact ⟨p, t, ht, hg⟩

theorem Remains.exists_call {fetches : List Fetch} (h : Remains event i t fetches)
    (hf : f ∈ fetches) : ∃ g ∈ t.fetches, g.call = f.call := by
  cases h with
  | unchanged => exact ⟨f, hf, rfl⟩
  | settled hsettles => exact hsettles.exists_call hf
  | dropped => exact ⟨f, List.mem_of_mem_filter hf, rfl⟩

theorem Acts.asked (h : Acts setup event i s s') (ht : s'.task? i = some t) (hf : f ∈ t.fetches) :
    s.Asked i f.call ∨ f.isPending = true := by
  rcases h.task_cases with ⟨stage, fetches, -, hnew, hbegins⟩ | ⟨u, t', hu, ht', -, hbecomes⟩
  · obtain rfl := Option.some.inj (ht.symm.trans hnew)
    exact Or.inr (hbegins.isPending f hf)
  · obtain rfl := Option.some.inj (ht.symm.trans ht')
    cases hbecomes with
    | waiting hsettles => exact Or.inl (asked_of_call hu (hsettles.exists_call hf))
    | ended hremains =>
      obtain ⟨g, hg, hcall⟩ := exists_call_of_mem_finish hf
      exact Or.inl (hcall ▸ asked_of_call hu (hremains.exists_call hg))
    | entered focal hstage hlast =>
      obtain ⟨⟨v, hsettles⟩, -⟩ := hlast
      rcases List.mem_append.mp hf with hf | hf
      · exact Or.inl (asked_of_call hu (hsettles.exists_call hf))
      · exact Or.inr ((Begins.explore 0 focal).isPending f hf)

theorem asked_or_pending_of_respond (hsent : s.Sent)
    (hp : (s.respond setup event).Records i call p) : s.Asked i call ∨ p = .pending := by
  by_cases hi : i = s.actor event
  · subst hi
    rcases step_acts setup s event with hidle | hact
    · rw [records_of_idle hsent hidle] at hp
      exact Or.inl ⟨p, hp⟩
    · obtain ⟨t, ht, hmem⟩ := hp
      obtain ⟨u, hu, hdrop⟩ := hact.settled_eq hsent
      rw [respond, hdrop, dropUnsent] at ht
      split at ht
      · obtain rfl := Option.some.inj (ht.symm.trans hu)
        refine (hact.asked hu hmem).imp_right fun hopen => ?_
        exact congrArg Fetch.progress (Fetch.eq_of_isPending hopen)
      · -- Requests that are dropped are taken off the record.
        obtain rfl := Option.some.inj (ht.symm.trans (task?_fail hu _ _))
        obtain ⟨g, hg, hcancel⟩ := List.mem_map.mp hmem
        obtain ⟨hg, hclosed⟩ := List.mem_filter.mp hg
        have hclosed : g.isPending = false := by simpa using hclosed
        rw [Fetch.cancel_of_closed hclosed] at hcancel
        subst hcancel
        exact Or.inl ((hact.asked hu hg).resolve_right (by simp [hclosed]))
  · rw [records_of_others hsent hi] at hp
    exact Or.inl ⟨p, hp⟩

theorem mem_dropUnsent_of_closed (ht : s.task? i = some t) (hf : f ∈ t.fetches)
    (hclosed : f.isPending = false) :
    ∃ t', (s.dropUnsent t i).task? i = some t' ∧ f ∈ t'.fetches := by
  unfold dropUnsent
  split
  · exact ⟨t, ht, hf⟩
  · have hkept : f ∈ t.fetches.filter (!·.isPending) :=
      List.mem_filter.mpr ⟨hf, by simp [hclosed]⟩
    exact ⟨_, task?_fail ht _ _, mem_finish_of_closed hkept hclosed _⟩

theorem mem_advance {u : Task} (hu : s.task? i = some u) (t : Task) (hf : f ∈ t.fetches)
    (hclosed : f.isPending = false) :
    ∃ t', (s.advance setup i t).task? i = some t' ∧ f ∈ t'.fetches := by
  have hfinish (outcome : Outcome) : f ∈ (t.finish outcome).fetches :=
    mem_finish_of_closed hf hclosed outcome
  unfold advance
  split
  · split
    · exact ⟨_, task?_replace_self hu, hfinish _⟩
    · split
      · exact ⟨_, task?_replace_self hu, hfinish _⟩
      · exact ⟨_, task?_replace_self hu, List.mem_append_left _ hf⟩
  all_goals
    split
    · exact ⟨_, task?_replace_self hu, hfinish _⟩
    · split
      · exact ⟨_, task?_replace_self hu, hfinish _⟩
      · exact ⟨_, task?_replace_self hu, hfinish _⟩

theorem mem_of_ok (setup : Setup) (hsent : s.Sent) {e : Endpoint} {v : Json}
    (haccepts : s.accepts (.settle i e (.ok v)) = true) (ht : s.task? i = some t)
    (hf : f ∈ t.fetches) : ∃ t', (s.respond setup (.settle i e (.ok v))).task? i = some t' ∧
      answered e (.ok v) f ∈ t'.fetches := by
  have hmem : answered e (.ok v) f ∈ t.fetches.map (answered e (.ok v)) := List.mem_map_of_mem hf
  by_cases hmore : (t.fetches.map (answered e (.ok v))).any Fetch.isPending = true
  · rw [respond_ok_of_more ht hsent haccepts hmore]
    exact ⟨_, task?_replace_self ht, hmem⟩
  · have hclosed : (answered e (.ok v) f).isPending = false := isPending_of_none hmore hmem
    have hgoes : s.settle setup i t e (.ok v) =
        s.advance setup i { t with fetches := t.fetches.map (answered e (.ok v)) } := if_neg hmore
    obtain ⟨u, hu, hopen, hany⟩ := accepts_settle_iff.mp haccepts
    obtain rfl := Option.some.inj (ht.symm.trans hu)
    have hact : Acts setup (.settle i e (.ok v)) i s (s.settle setup i t e (.ok v)) :=
      acts_settle rfl ht hopen hany
    obtain ⟨t', ht', hdrop⟩ := hact.settled_eq hsent
    rw [respond_ok_of_last ht haccepts hmore]
    rw [hgoes] at ht' hdrop
    obtain ⟨t'', ht'', hmem'⟩ := mem_advance ht
      { t with fetches := t.fetches.map (answered e (.ok v)) } hmem hclosed
    obtain rfl := Option.some.inj (ht'.symm.trans ht'')
    rw [hdrop]
    exact mem_dropUnsent_of_closed ht' hmem' hclosed

theorem mem_of_error (setup : Setup) (hsent : s.Sent) {e : Endpoint} {failure : Failure}
    (haccepts : s.accepts (.settle i e (.error failure)) = true) (ht : s.task? i = some t)
    (hf : f ∈ t.fetches) :
    ∃ t', (s.respond setup (.settle i e (.error failure))).task? i = some t' ∧
      (answered e (.error failure) f).cancel ∈ t'.fetches := by
  rw [respond_error ht hsent haccepts]
  exact ⟨_, task?_fail ht _ _, List.mem_map_of_mem (List.mem_map_of_mem hf)⟩

theorem respond_cancel (hsent : s.Sent) (ht : s.task? i = some t) (hopen : t.isPending = true) :
    s.respond setup (.cancel i) = s.replace i (t.finish .cancelled) := by
  have hstep : s.step setup (.cancel i) = s.replace i (t.finish .cancelled) := by
    simp [step, ht, hopen]
  rw [respond, hstep, settled_of_acted hsent (task?_replace_self ht) (Task.unsent?_finish _ _)
    fun j hj => task?_replace_of_ne _ _ _ hj]

/-- What an event makes of an open request of task `i`. -/
def fate (s : State) (event : Event) (i : Nat) (call : Client.Call) : Progress :=
  match event with
  | .settle j e reply =>
    if j ≠ i then .pending
    else if call.endpoint = e then .answered reply
    else
      match reply with
      | .ok _ => .pending
      | .error _ => if s.accepts event then .cancelled else .pending
  | .cancel j => if j = i then .cancelled else .pending
  | _ => .pending

section Fate

variable {e : Endpoint}

theorem fate_ok (v : Json) : s.fate (.settle i e (.ok v)) i call =
    if call.endpoint = e then .answered (.ok v) else .pending := by
  simp [fate]

theorem fate_error (failure : Failure) : s.fate (.settle i e (.error failure)) i call =
    if call.endpoint = e then .answered (.error failure)
    else if s.accepts (.settle i e (.error failure)) then .cancelled else .pending := by
  simp [fate]

theorem fate_of_refused {reply : Except Failure Json}
    (h : ¬s.accepts (.settle i e reply) = true) (he : call.endpoint ≠ e) :
    s.fate (.settle i e reply) i call = .pending := by
  cases reply <;> simp [fate, he, h]

theorem fate_of_others (hi : i ≠ s.actor event) : s.fate event i call = .pending := by
  cases event with
  | explore | exploreId | loadFile => rfl
  | settle => exact if_pos (Ne.symm hi)
  | cancel => exact if_neg (Ne.symm hi)

theorem answered_of_open (call : Client.Call) (e : Endpoint) (reply : Except Failure Json) :
    answered e reply ⟨call, .pending⟩ =
      ⟨call, if call.endpoint = e then .answered reply else .pending⟩ := by
  by_cases h : call.endpoint = e <;> simp [answered, isOpen, Fetch.endpoint, Fetch.isPending, h]

theorem accepts_of_records (htidy : s.Tidy) (hopen : s.Records i call .pending)
    (reply : Except Failure Json) : s.accepts (.settle i call.endpoint reply) = true := by
  obtain ⟨t, ht, hmem⟩ := hopen
  have hpending : t.isPending = true := htidy.isPending_of_records ⟨t, ht, hmem⟩ ht
  refine accepts_settle_iff.mpr ⟨t, ht, hpending, List.any_eq_true.mpr ⟨_, hmem, ?_⟩⟩
  simp [isOpen, Fetch.endpoint, Fetch.isPending]

theorem records_fate_of_settle (hsent : s.Sent) (htidy : s.Tidy)
    (hopen : s.Records i call .pending) (reply : Except Failure Json) :
    (s.respond setup (.settle i e reply)).Records i call (s.fate (.settle i e reply) i call) := by
  by_cases haccepts : s.accepts (.settle i e reply) = true
  · obtain ⟨t, ht, hmem⟩ := hopen
    cases reply with
    | ok v =>
      have hkept := mem_of_ok setup hsent haccepts ht hmem
      rw [answered_of_open] at hkept
      rw [fate_ok]
      exact hkept
    | error failure =>
      obtain ⟨t', ht', hmem'⟩ := mem_of_error setup hsent haccepts ht hmem
      refine ⟨t', ht', ?_⟩
      rw [answered_of_open] at hmem'
      rw [fate_error, if_pos haccepts]
      by_cases he : call.endpoint = e
      · rwa [if_pos he] at hmem' ⊢
      · rwa [if_neg he] at hmem' ⊢
  · have he : call.endpoint ≠ e := fun he => haccepts (he ▸ accepts_of_records htidy hopen reply)
    rw [records_of_idle hsent (step_of_not_accepts haccepts), fate_of_refused haccepts he]
    exact hopen

theorem records_fate (setup : Setup) (event : Event) (hsent : s.Sent) (htidy : s.Tidy)
    (hopen : s.Records i call .pending) :
    (s.respond setup event).Records i call (s.fate event i call) := by
  by_cases hi : i = s.actor event
  · cases event with
    | explore | exploreId | loadFile =>
      obtain ⟨t, ht, -⟩ := hopen
      exact absurd hi (Nat.ne_of_lt (lt_length_of_task? ht))
    | settle k e reply =>
      obtain rfl : i = k := hi
      exact records_fate_of_settle hsent htidy hopen reply
    | cancel k =>
      obtain rfl : i = k := hi
      obtain ⟨t, ht, hmem⟩ := hopen
      have hpending : t.isPending = true := htidy.isPending_of_records ⟨t, ht, hmem⟩ ht
      rw [fate, if_pos rfl, respond_cancel hsent ht hpending]
      exact ⟨_, task?_replace_self ht, List.mem_map_of_mem hmem⟩
  · rw [fate_of_others hi, records_of_others hsent hi]
    exact hopen

theorem fate_eq_answered_iff {reply : Except Failure Json} :
    s.fate event i call = .answered reply ↔ event = .settle i call.endpoint reply := by
  constructor
  · intro h
    unfold fate at h
    split at h
    · rename_i j e r
      by_cases hj : j = i
      · by_cases he : call.endpoint = e
        · rw [if_neg (by simp [hj]), if_pos he] at h
          rw [hj, ← he, Progress.answered.inj h]
        · rw [if_neg (by simp [hj]), if_neg he] at h
          split at h
          · contradiction
          · split at h <;> contradiction
      · rw [if_pos hj] at h
        contradiction
    · split at h <;> contradiction
    · contradiction
  · rintro rfl
    simp [fate]

theorem accepts_iff_records (htidy : s.Tidy) {reply : Except Failure Json} :
    s.accepts (.settle i e reply) = true ↔
      ∃ call, call.endpoint = e ∧ s.Records i call .pending := by
  constructor
  · intro h
    obtain ⟨t, ht, -, hany⟩ := accepts_settle_iff.mp h
    obtain ⟨f, hf, hopen⟩ := List.any_eq_true.mp hany
    simp only [isOpen, Bool.and_eq_true, beq_iff_eq] at hopen
    exact ⟨f.call, hopen.1, t, ht, Fetch.eq_of_isPending hopen.2 ▸ hf⟩
  · rintro ⟨call, rfl, hopen⟩
    exact accepts_of_records htidy hopen reply

/-- A request stays open as long as it is not answered, its task is not cancelled and no other
open request of the task fails. -/
theorem fate_eq_pending_iff (htidy : s.Tidy) : s.fate event i call = .pending ↔
    event ≠ .cancel i ∧ (∀ r, event ≠ .settle i call.endpoint r) ∧
      ∀ other failure, s.Records i other .pending →
        event ≠ .settle i other.endpoint (.error failure) := by
  by_cases hi : i = s.actor event
  · cases event with
    | explore | exploreId | loadFile => simp [fate]
    | cancel k =>
      obtain rfl : i = k := hi
      simp [fate]
    | settle k e reply =>
      obtain rfl : i = k := hi
      by_cases he : call.endpoint = e
      · simp [fate, he]
      · cases reply with
        | ok v => simp [fate_ok, he, Ne.symm he]
        | error failure =>
          rw [fate_error, if_neg he]
          -- The failure of a request that is open cancels the others.
          by_cases haccepts : s.accepts (.settle i e (.error failure)) = true
          · obtain ⟨other, rfl, hopen⟩ := (accepts_iff_records htidy).mp haccepts
            simp only [haccepts, if_true, reduceCtorEq, false_iff]
            exact fun hnone => hnone.2.2 other failure hopen rfl
          · have hnone (other : Client.Call) (hopen : s.Records i other .pending) :
                other.endpoint ≠ e :=
              fun hsame => haccepts ((accepts_iff_records htidy).mpr ⟨other, hsame, hopen⟩)
            rw [if_neg haccepts]
            refine iff_of_true rfl ⟨by simp, fun r => by simp [Ne.symm he], ?_⟩
            intro other failure' hopen hsame
            cases hsame
            exact hnone other hopen rfl
  · refine iff_of_true (fate_of_others hi) ⟨?_, ?_, ?_⟩
    · rintro rfl
      exact hi rfl
    · rintro r rfl
      exact hi rfl
    · rintro other failure - rfl
      exact hi rfl

end Fate

theorem records_respond_iff (hs : s.Steady) (htidy : s.Tidy) (hopen : s.Records i call .pending) :
    (s.respond setup event).Records i call p ↔ p = s.fate event i call := by
  have hfate := records_fate setup event hs.sent htidy hopen
  constructor
  · intro hp
    exact (htidy.respond hs setup event).eq_of_records hp hfate
  · rintro rfl
    exact hfate

theorem Asked.respond (h : s.Asked i call) (hs : s.Steady) (htidy : s.Tidy) (setup : Setup)
    (event : Event) : (s.respond setup event).Asked i call := by
  obtain ⟨p, h⟩ := h
  by_cases hp : p = .pending
  · subst hp
    exact ⟨_, records_fate setup event hs.sent htidy h⟩
  · exact ⟨p, records_of_closed (respond_acts setup hs.sent event).1 h hp⟩

theorem Asked.run (h : s.Asked i call) (hs : s.Steady) (htidy : s.Tidy) (setup : Setup)
    (events : List Event) : (s.run setup events).Asked i call := by
  induction events generalizing s with
  | nil => exact h
  | cons event events ih =>
    exact ih (h.respond hs htidy setup event) (hs.respond setup event)
      (htidy.respond hs setup event)

theorem records_run_of_untouched (hs : s.Steady) (htidy : s.Tidy)
    (hopen : s.Records i call .pending) {events : List Event}
    (huntouched : ∀ event ∈ events, event ≠ .cancel i ∧ (∀ r, event ≠ .settle i call.endpoint r) ∧
      ∀ e failure, event ≠ .settle i e (.error failure)) :
    (s.run setup events).Records i call .pending := by
  induction events generalizing s with
  | nil => exact hopen
  | cons event events ih =>
    obtain ⟨hcancel, hanswer, hfail⟩ := huntouched event List.mem_cons_self
    have hfate : s.fate event i call = .pending :=
      (fate_eq_pending_iff htidy).mpr ⟨hcancel, hanswer, fun other x _ => hfail _ x⟩
    have hstays := records_fate setup event hs.sent htidy hopen
    rw [hfate] at hstays
    exact ih (hs.respond setup event) (htidy.respond hs setup event) hstays
      fun x hx => huntouched x (List.mem_cons_of_mem _ hx)

theorem cancelled_iff_of_ends (hs : s.Steady) (htidy : s.Tidy)
    (hends : Ends s (s.respond setup event) i t) (hopen : s.Records j call .pending) :
    (s.respond setup event).Records j call .cancelled ↔
      j = i ∧ ∀ r, event ≠ .settle j call.endpoint r := by
  have hactor := eq_of_ends (respond_acts setup hs.sent event).1 hends
  have htidy' := htidy.respond hs setup event
  have hfate := records_fate setup event hs.sent htidy hopen
  rw [records_respond_iff hs htidy hopen]
  by_cases hj : j = i
  · subst hj
    -- Nothing of the task is open any more, so what is not answered is cancelled.
    cases hf : s.fate event j call with
    | pending =>
      rw [hf] at hfate
      have hpending := htidy'.isPending_of_records hfate hends.1
      rw [hends.2.1] at hpending
      contradiction
    | answered r => simp [fate_eq_answered_iff.mp hf]
    | cancelled =>
      refine iff_of_true rfl ⟨rfl, fun r hevent => ?_⟩
      rw [fate_eq_answered_iff.mpr hevent] at hf
      contradiction
  · rw [fate_of_others (hactor ▸ hj)]
    simp [hj]

theorem ends_of_cancelled (hs : s.Steady) (htidy : s.Tidy) (hopen : s.Records i call .pending)
    (hcancelled : (s.respond setup event).Records i call .cancelled) :
    ∃ t, Ends s (s.respond setup event) i t ∧
      (t.outcome = .cancelled ∨ ∃ e, t.outcome = .failed e) := by
  rw [records_respond_iff hs htidy hopen] at hcancelled
  obtain ⟨u, hu, hmem⟩ := hopen
  have hpending := htidy.isPending_of_records ⟨u, hu, hmem⟩ hu
  unfold fate at hcancelled
  split at hcancelled
  · rename_i j e reply
    split at hcancelled
    · contradiction
    · rename_i hj
      obtain rfl := not_not.mp hj
      split at hcancelled
      · contradiction
      · split at hcancelled
        · contradiction
        · split at hcancelled
          · rename_i haccepts
            obtain ⟨t, hends, hfailed, -⟩ := failed_of_accepts hs setup _ _ _ haccepts
            exact ⟨t, hends, Or.inr ⟨_, hfailed⟩⟩
          · contradiction
  · split at hcancelled
    · rename_i j hj
      subst hj
      rw [respond_cancel hs.sent hu hpending]
      refine ⟨_, ⟨task?_replace_self hu, rfl, fun v hv => ?_⟩, Or.inl rfl⟩
      rwa [Option.some.inj (hv.symm.trans hu)]
    · contradiction
  · contradiction

end State

open State

/-- Every request that was ever made is open, answered or cancelled, and only once: it is open at
first, and stays as it is once an event has settled it. A task that has ended has no request open.
The requests that are cancelled when a task ends are its own that were open and are not answered by
that very event, and this happens only when a task is cancelled or fails. Whatever else is started
or comes in, a load keeps its requests open. -/
theorem requests_settle_once (setup : Setup) (events : List Event) (event : Event) :
    let s := ({} : State).run setup events
    let s' := s.respond setup event
    (∀ before, before <+: events → ∀ i call,
      (({} : State).run setup before).Asked i call → ∃! p, s.Records i call p) ∧
    (∀ i call p, s'.Records i call p → s.Asked i call ∨ p = .pending) ∧
    (∀ i t, s.task? i = some t → (t.fetches.map Fetch.endpoint).Nodup ∧
      (t.isPending = false → ∀ call, ¬s.Records i call .pending)) ∧
    (∀ i call p, p ≠ .pending → s.Records i call p → s'.Records i call p) ∧
    (∀ i call, s.Records i call .pending →
      (∀ r, s'.Records i call (.answered r) ↔ event = .settle i call.endpoint r) ∧
      (s'.Records i call .pending ↔ event ≠ .cancel i ∧
        (∀ r, event ≠ .settle i call.endpoint r) ∧ ∀ other failure,
          s.Records i other .pending → event ≠ .settle i other.endpoint (.error failure)) ∧
      (s'.Records i call .cancelled →
        ∃ t, Ends s s' i t ∧ (t.outcome = .cancelled ∨ ∃ e, t.outcome = .failed e)) ∧
      ∀ after, (∀ event ∈ after, event ≠ .cancel i ∧ (∀ r, event ≠ .settle i call.endpoint r) ∧
        ∀ e failure, event ≠ .settle i e (.error failure)) →
        (s.run setup after).Records i call .pending) ∧
    ∀ i t, Ends s s' i t → ∀ j call, s.Records j call .pending →
      (s'.Records j call .cancelled ↔ j = i ∧ ∀ r, event ≠ .settle j call.endpoint r) := by
  intro s s'
  have hs : s.Steady := steady_run setup events
  have htidy : s.Tidy := tidy_run setup events
  refine ⟨?_, fun i call p => asked_or_pending_of_respond hs.sent, ?_, ?_, ?_, ?_⟩
  · rintro before ⟨after, rfl⟩ i call hasked
    have hlater := hasked.run (steady_run setup before) (tidy_run setup before) setup after
    rw [← run_append] at hlater
    obtain ⟨p, hp⟩ := hlater
    exact ⟨p, hp, fun q hq => htidy.eq_of_records hq hp⟩
  · intro i t ht
    refine ⟨(htidy i t ht).nodup, fun hended call hopen => ?_⟩
    rw [htidy.isPending_of_records hopen ht] at hended
    contradiction
  · intro i call p hp h
    exact records_of_closed (respond_acts setup hs.sent event).1 h hp
  · intro i call hopen
    refine ⟨fun r => ?_, ?_, ends_of_cancelled hs htidy hopen,
      fun after => records_run_of_untouched hs htidy hopen⟩
    · rw [records_respond_iff hs htidy hopen, eq_comm, fate_eq_answered_iff]
    · rw [records_respond_iff hs htidy hopen, eq_comm, fate_eq_pending_iff htidy]
  · intro i t hends j call hopen
    exact cancelled_iff_of_ends hs htidy hends hopen

example : (({} : State).run {} [.explore { id := "a" },
    .settle 0 .callers (.error unknown)]).fetches Fetch.isCancelled =
      [(0, .neighborhood), (0, .callChain)] := by
  decide +kernel

end CallAtlas.Explorer
