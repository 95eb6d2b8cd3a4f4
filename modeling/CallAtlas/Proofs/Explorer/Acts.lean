import CallAtlas.Explorer.Step
import Mathlib.Data.List.Sigma
import Mathlib.Logic.Relation

/-! What one event can do to an explorer. At most one task acts, it acts while it is under way, and
every event comes to a short sequence of its acts. -/
namespace CallAtlas.Explorer

def Stage.loadsGraph : Stage → Bool
  | .file .. => false
  | _ => true

namespace Fetch

@[simp] theorem reply?_cancel (f : Fetch) : f.cancel.reply? = f.reply? := by
  obtain ⟨call, progress⟩ := f
  cases progress <;> rfl

theorem isPending_of_reply? {f : Fetch} {reply : Except Failure Json}
    (h : f.reply? = some reply) : f.isPending = false := by
  obtain ⟨call, progress⟩ := f
  cases progress with
  | pending => contradiction
  | answered | cancelled => rfl

end Fetch

namespace Task

theorem pending_of_mem_finish {t : Task} {outcome : Outcome} {f : Fetch}
    (hf : f ∈ (t.finish outcome).fetches) : f.isPending = false := by
  obtain ⟨f, -, rfl⟩ := List.mem_map.mp hf
  unfold Fetch.cancel
  split
  · rfl
  · rename_i h
    simpa using h

@[simp] theorem unsent?_finish (t : Task) (outcome : Outcome) :
    (t.finish outcome).unsent? = none := by
  have hnone : (t.finish outcome).fetches.filter Fetch.isPending = [] :=
    List.filter_eq_nil_iff.mpr fun f hf => by simp [pending_of_mem_finish hf]
  rw [unsent?, hnone]
  rfl

end Task

namespace State

section Fields

variable (s : State) (i : Nat) (t : Task)

@[simp] theorem generation_replace : (s.replace i t).generation = s.generation := rfl
@[simp] theorem display_replace : (s.replace i t).display = s.display := rfl

@[simp] theorem generation_clear : (s.clear t).generation = s.generation := by
  unfold clear
  split <;> (try split) <;> rfl

@[simp] theorem tasks_clear : (s.clear t).tasks = s.tasks := by
  unfold clear
  split <;> (try split) <;> rfl

@[simp] theorem task?_clear (j : Nat) : (s.clear t).task? j = s.task? j := by
  rw [task?, tasks_clear, task?]

theorem display_clear :
    (s.clear t).display = s.display ∨
      (s.clear t).display = none ∧ ∃ focal, t.stage = .graph s.generation focal := by
  unfold clear
  split
  · exact Or.inl rfl
  · rename_i g focal hstage
    split
    · rename_i hg
      exact Or.inr ⟨rfl, focal, hg ▸ hstage⟩
    · exact Or.inl rfl
  · split <;> exact Or.inl rfl

theorem task?_replace_of_ne {j : Nat} (h : j ≠ i) : (s.replace i t).task? j = s.task? j :=
  List.getElem?_set_ne h.symm

theorem task?_add_self (stage : Stage) (fetches : List Fetch) :
    (s.add stage fetches).task? s.tasks.length = some { stage, fetches } :=
  List.getElem?_concat_length

theorem task?_add_of_ne {j : Nat} (h : j ≠ s.tasks.length) (stage : Stage)
    (fetches : List Fetch) : (s.add stage fetches).task? j = s.task? j := by
  unfold add task?
  rcases Nat.lt_or_gt_of_ne h with hlt | hgt
  · exact List.getElem?_append_left hlt
  · rw [List.getElem?_eq_none (Nat.le_of_lt hgt), List.getElem?_eq_none_iff, List.length_append,
      List.length_singleton]
    omega

variable {s i t}

theorem display_clear_latest {focal : FunctionNode} (hstage : t.stage = .graph s.generation focal) :
    (s.clear t).display = none := by
  simp [clear, hstage]

theorem lt_length_of_task? (h : s.task? i = some t) : i < s.tasks.length :=
  (List.getElem?_eq_some_iff.mp h).1

theorem task?_replace_self {u : Task} (h : s.task? i = some t) :
    (s.replace i u).task? i = some u :=
  List.getElem?_set_self (lt_length_of_task? h)

theorem task?_fail (h : s.task? i = some t) (u : Task) (e : Failure) :
    ((s.clear u).fail i u e).task? i = some (u.finish (.failed e)) :=
  task?_replace_self ((task?_clear s u i).trans h)

end Fields

/-- The generation that a task would have if nothing had been started since. -/
def latest (s : State) (t : Task) : Nat :=
  if t.stage.loadsGraph then s.generation else s.fileGeneration

inductive Begins : Event → Stage → List Fetch → Prop
  | explore (g : Nat) (focal : FunctionNode) :
    Begins (.explore focal) (.graph g focal) (graphFetches focal)
  | exploreId (g : Nat) (id : Json) :
    Begins (.exploreId id) (.detail g) [⟨.functionDetail id, .pending⟩]
  | loadFile (g : Nat) (path : Json) :
    Begins (.loadFile path) (.file g path) (fileFetches path)

theorem Begins.isPending {event : Event} {stage : Stage} {fetches : List Fetch}
    (h : Begins event stage fetches) : ∀ f ∈ fetches, f.isPending = true := by
  cases h <;> simp [graphFetches, fileFetches, Fetch.isPending]

/-- An event brings a reply to an open request of task `i`, which leaves these requests. -/
def Settles (event : Event) (i : Nat) (t : Task) (reply : Except Failure Json)
    (fetches : List Fetch) : Prop :=
  ∃ e, event = .settle i e reply ∧ t.fetches.any (isOpen e) = true ∧
    fetches = t.fetches.map (answered e reply)

/-- An event brings the last answer that task `i` has waited for. -/
def Completes (event : Event) (i : Nat) (t : Task) (fetches : List Fetch) : Prop :=
  (∃ v, Settles event i t (.ok v) fetches) ∧ ∀ f ∈ fetches, f.isPending = false

/-- What an event makes a task do that is under way, and how a new one begins. -/
inductive Acts (setup : Setup) (event : Event) (i : Nat) (s : State) : State → Prop
  | load {stage : Stage} {fetches : List Fetch} (hi : i = s.tasks.length)
    (hgraph : stage.loadsGraph = true)
    (hgeneration : Task.generation { stage, fetches } = s.generation + 1)
    (hbegins : Begins event stage fetches) :
    Acts setup event i s ({ s with generation := s.generation + 1 }.add stage fetches)
  | loadFile {path : Json} {fetches : List Fetch} (hi : i = s.tasks.length)
    (hbegins : Begins event (.file (s.fileGeneration + 1) path) fetches) :
    Acts setup event i s ({ s with fileGeneration := s.fileGeneration + 1 }.add
      (.file (s.fileGeneration + 1) path) fetches)
  | wait {t : Task} {fetches : List Fetch} {v : Json} (ht : s.task? i = some t)
    (hopen : t.isPending = true) (hsettles : Settles event i t (.ok v) fetches) :
    Acts setup event i s (s.replace i { t with fetches })
  | cancel {t : Task} (ht : s.task? i = some t) (hopen : t.isPending = true)
    (hevent : event = .cancel i) : Acts setup event i s (s.replace i (t.finish .cancelled))
  /-- One of its requests fails. -/
  | fail {t : Task} {fetches : List Fetch} {e : Failure} (ht : s.task? i = some t)
    (hopen : t.isPending = true) (hsettles : Settles event i t (.error e) fetches) :
    Acts setup event i s ((s.clear { t with fetches }).fail i { t with fetches } e)
  /-- One of its requests cannot be written. -/
  | drop {t : Task} {fetches : List Fetch} {e : Failure} (ht : s.task? i = some t)
    (hopen : t.isPending = true) (hlatest : t.generation = s.latest t)
    (hunsent : t.unsent? = some e) (hfetches : fetches = t.fetches.filter (!·.isPending)) :
    Acts setup event i s ((s.clear { t with fetches }).fail i { t with fetches } e)
  | stale {t : Task} {fetches : List Fetch} (ht : s.task? i = some t) (hopen : t.isPending = true)
    (hold : t.generation ≠ s.latest t) (hlast : Completes event i t fetches) :
    Acts setup event i s (s.replace i (Task.finish { t with fetches } .stale))
  /-- What it gets cannot be read. -/
  | refuse {t : Task} {fetches : List Fetch} {e : Failure} (ht : s.task? i = some t)
    (hopen : t.isPending = true) (hlatest : t.generation = s.latest t)
    (hlast : Completes event i t fetches) :
    Acts setup event i s (s.fail i { t with fetches } e)
  | enter {t : Task} {fetches : List Fetch} {focal : FunctionNode} (ht : s.task? i = some t)
    (hopen : t.isPending = true) (hstage : t.stage = .detail s.generation)
    (hlast : Completes event i t fetches) :
    Acts setup event i s (s.enter i { t with fetches } focal)
  | publish {t : Task} {fetches : List Fetch} {focal : FunctionNode} {graph : Graph}
    (ht : s.task? i = some t) (hopen : t.isPending = true)
    (hstage : t.stage = .graph s.generation focal) (hlast : Completes event i t fetches)
    (hgraph : graphOf setup focal (Task.payload { t with fetches } .neighborhood)
      (Task.payload { t with fetches } .callChain)
      (Task.payload { t with fetches } .callers) = .ok graph) :
    Acts setup event i s ({ s with display := some ⟨s.generation, focal, graph⟩ }.replace i
      (Task.finish { t with fetches } .published))
  | publishFile {t : Task} {fetches : List Fetch} {path : Json} {file : LoadedFile}
    (ht : s.task? i = some t) (hopen : t.isPending = true)
    (hstage : t.stage = .file s.fileGeneration path) (hlast : Completes event i t fetches)
    (hfile : fileOf path (Task.payload { t with fetches } .file)
      (Task.payload { t with fetches } .fileFunctions) = .ok file) :
    Acts setup event i s ({ s with file := some ⟨s.fileGeneration, file⟩ }.replace i
      (Task.finish { t with fetches } .published))

/-- The requests of task `i` that an event leaves on record, before those still open are
cancelled. -/
inductive Remains (event : Event) (i : Nat) (t : Task) : List Fetch → Prop
  | unchanged : Remains event i t t.fetches
  | settled {reply : Except Failure Json} {fetches : List Fetch}
    (h : Settles event i t reply fetches) : Remains event i t fetches
  | dropped : Remains event i t (t.fetches.filter (!·.isPending))

/-- What task `i` becomes with an event: it waits for more answers, it ends, or it enters on the
graph of the function that it has looked up. -/
inductive Becomes (event : Event) (i : Nat) (t : Task) : Task → Prop
  | waiting {fetches : List Fetch} {v : Json} (h : Settles event i t (.ok v) fetches) :
    Becomes event i t { t with fetches }
  | ended {fetches : List Fetch} (h : Remains event i t fetches) (outcome : Outcome)
    (hended : (Task.finish { t with fetches } outcome).isPending = false) :
    Becomes event i t (Task.finish { t with fetches } outcome)
  | entered {fetches : List Fetch} {g g' : Nat} (focal : FunctionNode) (hstage : t.stage = .detail g)
    (hlast : Completes event i t fetches) :
    Becomes event i t { t with stage := .graph g' focal, fetches := fetches ++ graphFetches focal }

theorem Acts.task_cases {setup : Setup} {event : Event} {i : Nat} {s s' : State}
    (h : Acts setup event i s s') :
    (∃ stage fetches, s.task? i = none ∧ s'.task? i = some { stage, fetches } ∧
      Begins event stage fetches) ∨
    ∃ t t', s.task? i = some t ∧ s'.task? i = some t' ∧ t.isPending = true ∧
      Becomes event i t t' := by
  cases h with
  | load hi hgraph hgeneration hbegins | loadFile hi hbegins =>
    subst hi
    exact Or.inl ⟨_, _, List.getElem?_eq_none (Nat.le_refl _), task?_add_self _ _ _, hbegins⟩
  | wait ht hopen hsettles =>
    exact Or.inr ⟨_, _, ht, task?_replace_self ht, hopen, .waiting hsettles⟩
  | cancel ht hopen =>
    exact Or.inr ⟨_, _, ht, task?_replace_self ht, hopen, .ended .unchanged _ rfl⟩
  | fail ht hopen hsettles =>
    exact Or.inr ⟨_, _, ht, task?_fail ht _ _, hopen, .ended (.settled hsettles) _ rfl⟩
  | drop ht hopen hlatest hunsent hfetches =>
    subst hfetches
    exact Or.inr ⟨_, _, ht, task?_fail ht _ _, hopen, .ended .dropped _ rfl⟩
  | stale ht hopen hold hlast | refuse ht hopen hlatest hlast | publish ht hopen hstage hlast
  | publishFile ht hopen hstage hlast =>
    obtain ⟨⟨v, hsettles⟩, -⟩ := hlast
    exact Or.inr ⟨_, _, ht, task?_replace_self ht, hopen, .ended (.settled hsettles) _ rfl⟩
  | enter ht hopen hstage hlast =>
    exact Or.inr ⟨_, _, ht, task?_replace_self ht, hopen, .entered _ hstage hlast⟩

def actor (s : State) : Event → Nat
  | .settle i _ _ => i
  | .cancel i => i
  | _ => s.tasks.length

section Step

variable {setup : Setup} {event : Event} {s : State} {i : Nat} {t : Task}

theorem latest_graph {g : Nat} {focal : FunctionNode} (hstage : t.stage = .graph g focal) :
    s.latest t = s.generation := by
  simp [latest, hstage, Stage.loadsGraph]

theorem latest_detail {g : Nat} (hstage : t.stage = .detail g) : s.latest t = s.generation := by
  simp [latest, hstage, Stage.loadsGraph]

theorem latest_file {g : Nat} {path : Json} (hstage : t.stage = .file g path) :
    s.latest t = s.fileGeneration := by
  simp [latest, hstage, Stage.loadsGraph]

theorem acts_advance (ht : s.task? i = some t) (hopen : t.isPending = true)
    {fetches : List Fetch} (hlast : Completes event i t fetches) :
    Acts setup event i s (s.advance setup i { t with fetches }) := by
  unfold advance
  split
  · rename_i g hstage
    have hlatest : s.latest t = s.generation := latest_detail hstage
    have hg : t.generation = g := by simp only at hstage; simp [Task.generation, hstage]
    split
    · rename_i hold
      exact .stale ht hopen (by rwa [hlatest, hg]) hlast
    · rename_i hg'
      split
      · exact .refuse ht hopen (by rw [hlatest, hg]; exact not_not.mp hg') hlast
      · exact .enter ht hopen (not_not.mp hg' ▸ hstage) hlast
  · rename_i g focal hstage
    have hlatest : s.latest t = s.generation := latest_graph hstage
    have hg : t.generation = g := by simp only at hstage; simp [Task.generation, hstage]
    split
    · rename_i hold
      exact .stale ht hopen (by rwa [hlatest, hg]) hlast
    · rename_i hg'
      obtain rfl := not_not.mp hg'
      split
      · exact .refuse ht hopen (by rw [hlatest, hg]) hlast
      · rename_i hgraph
        exact .publish ht hopen hstage hlast hgraph
  · rename_i g path hstage
    have hlatest : s.latest t = s.fileGeneration := latest_file hstage
    have hg : t.generation = g := by simp only at hstage; simp [Task.generation, hstage]
    split
    · rename_i hold
      exact .stale ht hopen (by rwa [hlatest, hg]) hlast
    · rename_i hg'
      obtain rfl := not_not.mp hg'
      split
      · exact .refuse ht hopen (by rw [hlatest, hg]) hlast
      · rename_i hfile
        exact .publishFile ht hopen hstage hlast hfile

theorem isPending_of_none {fetches : List Fetch} (h : ¬fetches.any Fetch.isPending = true)
    {f : Fetch} (hf : f ∈ fetches) : f.isPending = false := by
  simpa using mt (fun hpending => List.any_eq_true.mpr ⟨f, hf, hpending⟩) h

theorem mem_of_mem_answered {e : Http.Endpoint} {reply : Except Failure Json}
    {fetches : List Fetch} {f : Fetch} (hf : f ∈ fetches.map (answered e reply))
    (hopen : f.isPending = true) : f ∈ fetches := by
  obtain ⟨g, hg, rfl⟩ := List.mem_map.mp hf
  unfold answered at hopen ⊢
  split at hopen
  · contradiction
  · rename_i hkept
    rwa [if_neg hkept]

theorem Settles.mem_of_pending {reply : Except Failure Json} {fetches : List Fetch}
    (h : Settles event i t reply fetches) {f : Fetch} (hf : f ∈ fetches)
    (hopen : f.isPending = true) : f ∈ t.fetches := by
  obtain ⟨e, -, -, rfl⟩ := h
  exact mem_of_mem_answered hf hopen

theorem Settles.exists_reply {reply : Except Failure Json} {fetches : List Fetch}
    (h : Settles event i t reply fetches) : ∃ f ∈ fetches, f.reply? = some reply := by
  obtain ⟨e, -, hfetch, rfl⟩ := h
  obtain ⟨f, hf, hopen⟩ := List.any_eq_true.mp hfetch
  exact ⟨{ f with progress := .answered reply }, List.mem_map.mpr ⟨f, hf, if_pos hopen⟩, rfl⟩

theorem acts_settle {e : Http.Endpoint} {reply : Except Failure Json}
    (hevent : event = .settle i e reply) (ht : s.task? i = some t) (hopen : t.isPending = true)
    (hfetch : t.fetches.any (isOpen e) = true) :
    Acts setup event i s (s.settle setup i t e reply) := by
  have hsettles : Settles event i t reply (t.fetches.map (answered e reply)) :=
    ⟨e, hevent, hfetch, rfl⟩
  unfold settle
  cases reply with
  | error failure => exact .fail ht hopen hsettles
  | ok v =>
    dsimp only
    split
    · exact .wait ht hopen hsettles
    · rename_i hnone
      exact acts_advance ht hopen ⟨⟨v, hsettles⟩, fun _ => isPending_of_none hnone⟩

/-- An event finds nothing that it is about, or the task that it is about acts. -/
theorem step_acts (setup : Setup) (s : State) (event : Event) :
    s.step setup event = s ∨ Acts setup event (s.actor event) s (s.step setup event) := by
  cases event with
  | explore focal => exact Or.inr (.load rfl rfl rfl (.explore _ focal))
  | exploreId id => exact Or.inr (.load rfl rfl rfl (.exploreId _ id))
  | loadFile path => exact Or.inr (.loadFile rfl (.loadFile _ path))
  | settle i e reply =>
    unfold step
    dsimp only
    split
    · rename_i t ht
      split
      · rename_i haccepts
        simp only [accepts, ht, Option.any_some, Bool.and_eq_true] at haccepts
        exact Or.inr (acts_settle rfl ht haccepts.1 haccepts.2)
      · exact Or.inl rfl
    · exact Or.inl rfl
  | cancel i =>
    unfold step
    dsimp only
    split
    · rename_i t ht
      split
      · rename_i hopen
        exact Or.inr (.cancel ht hopen rfl)
      · exact Or.inl rfl
    · exact Or.inl rfl

theorem accepts_settle_iff {e : Http.Endpoint} {r : Except Failure Json} :
    s.accepts (.settle i e r) = true ↔
      ∃ t, s.task? i = some t ∧ t.isPending = true ∧ t.fetches.any (isOpen e) = true := by
  cases ht : s.task? i <;> simp [accepts, ht]

theorem step_of_accepts {e : Http.Endpoint} {r : Except Failure Json}
    (ht : s.task? i = some t) (haccepts : s.accepts (.settle i e r) = true) :
    s.step setup (.settle i e r) = s.settle setup i t e r := by
  simp [step, ht, haccepts]

theorem step_of_not_accepts {e : Http.Endpoint} {r : Except Failure Json}
    (h : ¬s.accepts (.settle i e r) = true) : s.step setup (.settle i e r) = s := by
  cases ht : s.task? i <;> simp [step, ht, h]

end Step

def Sent (s : State) : Prop :=
  ∀ i t, s.task? i = some t → t.unsent? = none

section Sent

variable {setup : Setup} {event : Event} {s s' : State} {i : Nat} {t : Task}

theorem Sent.of_others (ht : s.task? i = some t) (hsent : t.unsent? = none)
    (hothers : ∀ j u, j ≠ i → s.task? j = some u → u.unsent? = none) : s.Sent := by
  intro j u hu
  by_cases hj : j = i
  · subst hj
    rwa [Option.some.inj (hu.symm.trans ht)]
  · exact hothers j u hj hu

theorem dropUnsent_of_sent (h : t.unsent? = none) : s.dropUnsent t i = s := by
  rw [dropUnsent, h]

theorem foldl_dropUnsent_of_sent {tasks : List (Task × Nat)}
    (h : ∀ p ∈ tasks, p.1.unsent? = none) :
    tasks.foldl (fun s (t, i) => s.dropUnsent t i) s = s := by
  induction tasks with
  | nil => rfl
  | cons p ps ih =>
    obtain ⟨t, i⟩ := p
    have hhead : t.unsent? = none := h (t, i) List.mem_cons_self
    rw [List.foldl_cons]
    dsimp only
    rw [dropUnsent_of_sent hhead]
    exact ih fun q hq => h q (List.mem_cons_of_mem _ hq)

theorem settled_of_sent (h : s.Sent) : s.settled = s :=
  foldl_dropUnsent_of_sent fun p hp => h p.2 p.1 (List.mem_zipIdx_iff_getElem?.mp hp)

theorem settled_of_others (ht : s.task? i = some t)
    (hothers : ∀ j u, j ≠ i → s.task? j = some u → u.unsent? = none) :
    s.settled = s.dropUnsent t i := by
  have hmem : (t, i) ∈ s.tasks.zipIdx := List.mem_zipIdx_iff_getElem?.mpr ht
  obtain ⟨before, after, hsplit⟩ := List.append_of_mem hmem
  have hnodup := List.nodup_zipIdx_map_snd s.tasks
  rw [hsplit, List.map_append, List.map_cons, List.nodup_middle, List.nodup_cons,
    ← List.map_append] at hnodup
  have hsent : ∀ p ∈ before ++ after, p.1.unsent? = none := by
    intro p hp
    have hne : p.2 ≠ i := fun h => hnodup.1 (List.mem_map.mpr ⟨p, hp, h⟩)
    apply hothers p.2 p.1 hne
    apply List.mem_zipIdx_iff_getElem?.mp
    rw [hsplit]
    rcases List.mem_append.mp hp with h | h
    · exact List.mem_append_left _ h
    · exact List.mem_append_right _ (List.mem_cons_of_mem _ h)
  unfold settled
  rw [hsplit, List.foldl_append, List.foldl_cons,
    foldl_dropUnsent_of_sent fun p hp => hsent p (List.mem_append_left _ hp),
    foldl_dropUnsent_of_sent fun p hp => hsent p (List.mem_append_right _ hp)]

theorem unsent?_of_less {fetches : List Fetch}
    (hless : ∀ f ∈ fetches, f.isPending = true → f ∈ t.fetches) (h : t.unsent? = none) :
    Task.unsent? { t with fetches } = none := by
  unfold Task.unsent? at h ⊢
  rw [List.findSome?_eq_none_iff] at h ⊢
  intro f hf
  obtain ⟨hf, hpending⟩ := List.mem_filter.mp hf
  exact h f (List.mem_filter.mpr ⟨hless f hf hpending, hpending⟩)

theorem settled_of_acted (hs : s.Sent) (ht : s'.task? i = some t)
    (hsent : t.unsent? = none) (hsame : ∀ j, j ≠ i → s'.task? j = s.task? j) :
    s'.settled = s' :=
  settled_of_sent (.of_others ht hsent fun j u hj hu => hs j u (hsame j hj ▸ hu))

section Respond

variable {e : Http.Endpoint} {v : Json} {failure : Failure} (ht : s.task? i = some t)
include ht

/-- An answer that others are still awaited with is put on record. -/
theorem respond_ok_of_more (hs : s.Sent) (haccepts : s.accepts (.settle i e (.ok v)) = true)
    (hmore : (t.fetches.map (answered e (.ok v))).any Fetch.isPending = true) :
    s.respond setup (.settle i e (.ok v)) =
      s.replace i { t with fetches := t.fetches.map (answered e (.ok v)) } := by
  have hwait : s.settle setup i t e (.ok v) =
      s.replace i { t with fetches := t.fetches.map (answered e (.ok v)) } := if_pos hmore
  have hsent : Task.unsent? { t with fetches := t.fetches.map (answered e (.ok v)) } = none :=
    unsent?_of_less (fun f => mem_of_mem_answered) (hs i t ht)
  rw [respond, step_of_accepts ht haccepts, hwait]
  exact settled_of_acted hs (task?_replace_self ht) hsent fun j hj => task?_replace_of_ne _ _ _ hj

/-- With the last of its answers a task goes on. -/
theorem respond_ok_of_last (haccepts : s.accepts (.settle i e (.ok v)) = true)
    (hlast : ¬(t.fetches.map (answered e (.ok v))).any Fetch.isPending = true) :
    s.respond setup (.settle i e (.ok v)) =
      (s.advance setup i { t with fetches := t.fetches.map (answered e (.ok v)) }).settled := by
  rw [respond, step_of_accepts ht haccepts]
  exact congrArg settled (if_neg hlast)

/-- A failure ends its task. -/
theorem respond_error (hs : s.Sent) (haccepts : s.accepts (.settle i e (.error failure)) = true) :
    s.respond setup (.settle i e (.error failure)) =
      (s.clear { t with fetches := t.fetches.map (answered e (.error failure)) }).fail i
        { t with fetches := t.fetches.map (answered e (.error failure)) } failure := by
  rw [respond, step_of_accepts ht haccepts]
  exact settled_of_acted hs (task?_fail ht _ _) (Task.unsent?_finish _ _) fun j hj =>
    (task?_replace_of_ne _ _ _ hj).trans (task?_clear _ _ _)

end Respond

theorem Acts.unsent (h : Acts setup event i s s') (hsent : s.Sent) :
    ∃ t, s'.task? i = some t ∧
      (t.unsent? = none ∨ t.isPending = true ∧ t.generation = s'.latest t) := by
  cases h with
  | load hi hgraph hgeneration =>
    subst hi
    refine ⟨_, task?_add_self _ _ _, Or.inr ⟨rfl, ?_⟩⟩
    rw [hgeneration, latest, if_pos hgraph]
    rfl
  | loadFile hi =>
    subst hi
    exact ⟨_, task?_add_self _ _ _, Or.inr ⟨rfl, rfl⟩⟩
  | wait ht hopen hsettles =>
    have hless := fun f => hsettles.mem_of_pending (f := f)
    exact ⟨_, task?_replace_self ht, Or.inl (unsent?_of_less hless (hsent _ _ ht))⟩
  | cancel ht | stale ht | refuse ht | publish ht | publishFile ht =>
    exact ⟨_, task?_replace_self ht, Or.inl (Task.unsent?_finish _ _)⟩
  | fail ht | drop ht => exact ⟨_, task?_fail ht _ _, Or.inl (Task.unsent?_finish _ _)⟩
  | enter ht hopen => exact ⟨_, task?_replace_self ht, Or.inr ⟨hopen, rfl⟩⟩

theorem Acts.task?_of_ne (h : Acts setup event i s s') {j : Nat} (hj : j ≠ i) :
    s'.task? j = s.task? j := by
  cases h with
  | load hi | loadFile hi => exact task?_add_of_ne _ (hi ▸ hj) _ _
  | wait | cancel | stale | refuse | enter | publish | publishFile =>
    exact task?_replace_of_ne _ _ _ hj
  | fail | drop => exact (task?_replace_of_ne _ _ _ hj).trans (task?_clear _ _ _)

theorem Acts.unsent?_of_ne (h : Acts setup event i s s') (hsent : s.Sent) (j : Nat) (u : Task)
    (hj : j ≠ i) (hu : s'.task? j = some u) : u.unsent? = none :=
  hsent j u (h.task?_of_ne hj ▸ hu)

theorem Acts.settled_eq (h : Acts setup event i s s') (hsent : s.Sent) :
    ∃ t, s'.task? i = some t ∧ s'.settled = s'.dropUnsent t i := by
  obtain ⟨t, ht, -⟩ := h.unsent hsent
  exact ⟨t, ht, settled_of_others ht (h.unsent?_of_ne hsent)⟩

theorem Acts.settled (h : Acts setup event i s s') (hsent : s.Sent) :
    (s'.settled = s' ∨ Acts setup event i s' s'.settled) ∧ s'.settled.Sent := by
  obtain ⟨t, ht, hunsent⟩ := h.unsent hsent
  have hothers := h.unsent?_of_ne hsent
  rw [settled_of_others ht hothers]
  cases hdrop : t.unsent? with
  | none =>
    rw [dropUnsent_of_sent hdrop]
    exact ⟨Or.inl rfl, .of_others ht hdrop hothers⟩
  | some e =>
    obtain ⟨hopen, hlatest⟩ := hunsent.resolve_left (by simp [hdrop])
    rw [dropUnsent, hdrop]
    have hdropped : Acts setup event i s' ((s'.clear _).fail i _ e) :=
      .drop ht hopen hlatest hdrop rfl
    refine ⟨Or.inr hdropped, .of_others (task?_fail ht _ e) (Task.unsent?_finish _ _) ?_⟩
    intro j u hj hu
    exact hothers j u hj (hdropped.task?_of_ne hj ▸ hu)

/-- An event comes to acts of one task, and leaves no request open that cannot be written. -/
theorem respond_acts (setup : Setup) (hsent : s.Sent) (event : Event) :
    Relation.ReflTransGen (Acts setup event (s.actor event)) s (s.respond setup event) ∧
      (s.respond setup event).Sent := by
  unfold respond
  rcases step_acts setup s event with hidle | hacts
  · rw [hidle, settled_of_sent hsent]
    exact ⟨.refl, hsent⟩
  · obtain ⟨hmore, hsettled⟩ := hacts.settled hsent
    refine ⟨?_, hsettled⟩
    rcases hmore with hsame | hmore
    · rw [hsame]
      exact .single hacts
    · exact .tail (.single hacts) hmore

end Sent

end State
end CallAtlas.Explorer
