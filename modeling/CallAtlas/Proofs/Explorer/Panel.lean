import CallAtlas.Explorer.Step
import Mathlib.Data.List.Induction

/-! An explorer that keeps the function in focus and its graph in two attributes, each of which is
set by itself. It goes through the same states as the one with both on one display. -/
namespace CallAtlas.Explorer

open Http (Endpoint)

structure Panel where
  generation : Nat := 0
  fileGeneration : Nat := 0
  focal : Option FunctionNode := none
  model : Option Graph := none
  file : Option LoadedFile := none
  tasks : List Task := []

namespace Panel

def replace (p : Panel) (i : Nat) (t : Task) : Panel :=
  { p with tasks := p.tasks.set i t }

def clear (p : Panel) (t : Task) : Panel :=
  match t.stage with
  | .detail _ => p
  | .graph g _ =>
    if g = p.generation then
      let p := { p with focal := none }
      { p with model := none }
    else p
  | .file g _ => if g = p.fileGeneration then { p with file := none } else p

def fail (p : Panel) (i : Nat) (t : Task) (e : Failure) : Panel :=
  p.replace i (t.finish (.failed e))

def enter (p : Panel) (i : Nat) (t : Task) (focal : FunctionNode) : Panel :=
  let g := p.generation + 1
  { p with generation := g }.replace i
    { t with stage := .graph g focal, fetches := t.fetches ++ graphFetches focal }

/-- Nothing is set before the graph is there. -/
def advance (setup : Setup) (p : Panel) (i : Nat) (t : Task) : Panel :=
  match t.stage with
  | .detail g =>
    if g ≠ p.generation then p.replace i (t.finish .stale)
    else
      match FunctionNode.ofJson (t.payload .functionDetail) with
      | .error e => p.fail i t e
      | .ok focal => p.enter i t focal
  | .graph g focal =>
    if g ≠ p.generation then p.replace i (t.finish .stale)
    else
      match graphOf setup focal (t.payload .neighborhood) (t.payload .callChain)
        (t.payload .callers) with
      | .error e => p.fail i t e
      | .ok graph =>
        let p := { p with focal := some focal }
        let p := { p with model := some graph }
        p.replace i (t.finish .published)
  | .file g path =>
    if g ≠ p.fileGeneration then p.replace i (t.finish .stale)
    else
      match fileOf path (t.payload .file) (t.payload .fileFunctions) with
      | .error e => p.fail i t e
      | .ok file => { p with file := some file }.replace i (t.finish .published)

def settle (setup : Setup) (p : Panel) (i : Nat) (t : Task) (e : Endpoint)
    (reply : Except Failure Json) : Panel :=
  let t := { t with fetches := t.fetches.map (State.answered e reply) }
  match reply with
  | .error failure => (p.clear t).fail i t failure
  | .ok _ => if t.fetches.any Fetch.isPending then p.replace i t else p.advance setup i t

def add (p : Panel) (stage : Stage) (fetches : List Fetch) : Panel :=
  { p with tasks := p.tasks ++ [{ stage, fetches }] }

def step (setup : Setup) (p : Panel) (event : Event) : Panel :=
  match event with
  | .explore focal =>
    let g := p.generation + 1
    { p with generation := g }.add (.graph g focal) (graphFetches focal)
  | .exploreId id =>
    let g := p.generation + 1
    { p with generation := g }.add (.detail g) [⟨.functionDetail id, .pending⟩]
  | .loadFile path =>
    let g := p.fileGeneration + 1
    { p with fileGeneration := g }.add (.file g path) (fileFetches path)
  | .settle i e reply =>
    match p.tasks[i]? with
    | some t =>
      if t.isPending && t.fetches.any (State.isOpen e) then p.settle setup i t e reply else p
    | none => p
  | .cancel i =>
    match p.tasks[i]? with
    | some t => if t.isPending then p.replace i (t.finish .cancelled) else p
    | none => p

def dropUnsent (p : Panel) (t : Task) (i : Nat) : Panel :=
  match t.unsent? with
  | none => p
  | some e =>
    let t := { t with fetches := t.fetches.filter (!·.isPending) }
    (p.clear t).fail i t e

def settled (p : Panel) : Panel :=
  p.tasks.zipIdx.foldl (fun p (t, i) => p.dropUnsent t i) p

def respond (setup : Setup) (p : Panel) (event : Event) : Panel :=
  (p.step setup event).settled

def run (setup : Setup) (p : Panel) (events : List Event) : Panel :=
  events.foldl (respond setup) p

/-- The two attributes that a display amounts to. -/
def ofState (s : State) : Panel where
  generation := s.generation
  fileGeneration := s.fileGeneration
  focal := s.display.map Display.focal
  model := s.display.map Display.graph
  file := s.file.map FileDisplay.file
  tasks := s.tasks

section Simulation

variable (setup : Setup) (s : State) (i : Nat) (t : Task)

theorem clear_ofState : (ofState s).clear t = ofState (s.clear t) := by
  unfold clear State.clear
  cases t.stage with
  | detail g => rfl
  | graph | file =>
    simp only [apply_ite ofState]
    rfl

theorem advance_ofState : (ofState s).advance setup i t = ofState (s.advance setup i t) := by
  unfold advance State.advance
  cases t.stage with
  | detail g =>
    simp only [apply_ite ofState]
    cases FunctionNode.ofJson (t.payload .functionDetail) <;> rfl
  | graph g focal =>
    simp only [apply_ite ofState]
    cases graphOf setup focal (t.payload .neighborhood) (t.payload .callChain)
      (t.payload .callers) <;> rfl
  | file g path =>
    simp only [apply_ite ofState]
    cases fileOf path (t.payload .file) (t.payload .fileFunctions) <;> rfl

theorem settle_ofState (e : Endpoint) (reply : Except Failure Json) :
    (ofState s).settle setup i t e reply = ofState (s.settle setup i t e reply) := by
  unfold settle State.settle
  cases reply with
  | error failure =>
    dsimp only
    rw [clear_ofState]
    rfl
  | ok v =>
    simp only [apply_ite ofState, advance_ofState]
    rfl

theorem step_ofState (event : Event) :
    (ofState s).step setup event = ofState (s.step setup event) := by
  cases event with
  | explore | exploreId | loadFile => rfl
  | settle i e reply =>
    unfold step State.step
    have htask : (ofState s).tasks[i]? = s.task? i := rfl
    simp only [htask]
    cases ht : s.task? i with
    | none => rfl
    | some t =>
      simp only [State.accepts, ht, Option.any_some, apply_ite ofState, settle_ofState]
  | cancel i =>
    unfold step State.step
    have htask : (ofState s).tasks[i]? = s.task? i := rfl
    simp only [htask]
    cases s.task? i with
    | none => rfl
    | some t =>
      simp only [apply_ite ofState]
      rfl

theorem dropUnsent_ofState : (ofState s).dropUnsent t i = ofState (s.dropUnsent t i) := by
  unfold dropUnsent State.dropUnsent
  cases t.unsent? with
  | none => rfl
  | some e =>
    dsimp only
    rw [clear_ofState]
    rfl

theorem settled_ofState : (ofState s).settled = ofState s.settled := by
  have hfold (tasks : List (Task × Nat)) (s : State) :
      tasks.foldl (fun p (t, i) => p.dropUnsent t i) (ofState s) =
        ofState (tasks.foldl (fun s (t, i) => s.dropUnsent t i) s) := by
    induction tasks generalizing s with
    | nil => rfl
    | cons x xs ih =>
      obtain ⟨t, i⟩ := x
      rw [List.foldl_cons, List.foldl_cons]
      dsimp only
      rw [dropUnsent_ofState]
      exact ih _
  exact hfold _ s

theorem respond_ofState (event : Event) :
    (ofState s).respond setup event = ofState (s.respond setup event) := by
  rw [respond, step_ofState, settled_ofState, State.respond]

end Simulation

theorem run_eq_ofState (setup : Setup) (events : List Event) :
    ({} : Panel).run setup events = ofState (({} : State).run setup events) := by
  have hfold (s : State) : (ofState s).run setup events = ofState (s.run setup events) := by
    induction events generalizing s with
    | nil => rfl
    | cons event events ih =>
      have hrest := ih (s.respond setup event)
      rw [← respond_ofState] at hrest
      exact hrest
  exact hfold {}

/-- The function in focus and its graph are there together or not at all. -/
def Whole (p : Panel) : Prop :=
  p.focal = none ↔ p.model = none

variable {p : Panel} {setup : Setup}

theorem Whole.clear (h : p.Whole) (t : Task) : (p.clear t).Whole := by
  unfold Panel.clear
  split
  · exact h
  · split
    · exact iff_of_true rfl rfl
    · exact h
  · split <;> exact h

theorem Whole.advance (h : p.Whole) (i : Nat) (t : Task) : (p.advance setup i t).Whole := by
  unfold Panel.advance
  split
  · split
    · exact h
    · split <;> exact h
  · split
    · exact h
    · split
      · exact h
      · exact iff_of_false (Option.some_ne_none _) (Option.some_ne_none _)
  · split
    · exact h
    · split <;> exact h

theorem Whole.step (h : p.Whole) (event : Event) : (p.step setup event).Whole := by
  cases event with
  | explore | exploreId | loadFile => exact h
  | settle i e reply =>
    unfold Panel.step
    dsimp only
    split
    · split
      · unfold settle
        cases reply with
        | error failure => exact h.clear _
        | ok v =>
          dsimp only
          split
          · exact h
          · exact h.advance _ _
      · exact h
    · exact h
  | cancel i =>
    unfold Panel.step
    dsimp only
    split
    · split <;> exact h
    · exact h

theorem Whole.dropUnsent (h : p.Whole) (t : Task) (i : Nat) : (p.dropUnsent t i).Whole := by
  unfold Panel.dropUnsent
  split
  · exact h
  · exact h.clear _

theorem Whole.settled (h : p.Whole) : p.settled.Whole := by
  have hfold (tasks : List (Task × Nat)) {p : Panel} (h : p.Whole) :
      (tasks.foldl (fun p (t, i) => p.dropUnsent t i) p).Whole := by
    induction tasks generalizing p with
    | nil => exact h
    | cons x xs ih => exact ih (h.dropUnsent x.1 x.2)
  exact hfold _ h

theorem whole_run (setup : Setup) (events : List Event) :
    (({} : Panel).run setup events).Whole := by
  induction events using List.reverseRecOn with
  | nil => exact iff_of_true rfl rfl
  | append_singleton events event ih =>
    rw [run, List.foldl_append]
    exact (ih.step event).settled

end Panel
end CallAtlas.Explorer
