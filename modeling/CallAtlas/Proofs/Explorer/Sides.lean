import CallAtlas.Proofs.Explorer.Latest

/-! Loads of graphs and loads of files do not interfere. To leave all loads of one side out of a
run, with their answers and cancellations, is to leave that side out of every state on the way, and
changes nothing on the other. -/
namespace CallAtlas.Explorer

open Http (Endpoint)

/-- What a load competes for: the graph on display or the file. -/
inductive Side
  | graph
  | file
deriving DecidableEq

def Stage.side : Stage → Side
  | .file .. => .file
  | _ => .graph

def Task.side (t : Task) : Side :=
  t.stage.side

/-- The number that a task has among those that are not left out, by the sides of all tasks. -/
def renumbered (left : Side) (sides : List Side) (i : Nat) : Nat :=
  (sides.take i).countP (· ≠ left)

namespace Event

def starts? : Event → Option Side
  | .explore _ | .exploreId _ => some .graph
  | .loadFile _ => some .file
  | .settle .. | .cancel _ => none

/-- The side that an event is on, after loads of these sides were started. An event for a task that
was never started is on none. -/
def side? (sides : List Side) : Event → Option Side
  | .settle i _ _ | .cancel i => sides[i]?
  | event => event.starts?

def renumber (f : Nat → Nat) : Event → Event
  | .settle i e reply => .settle (f i) e reply
  | .cancel i => .cancel (f i)
  | event => event

end Event

def without (left : Side) (sides : List Side) : List Event → List Event
  | [] => []
  | event :: events =>
    let rest := without left (sides ++ event.starts?.toList) events
    if event.side? sides = some left then rest
    else event.renumber (renumbered left sides) :: rest

namespace State

def sides (s : State) : List Side :=
  s.tasks.map Task.side

def others (left : Side) (tasks : List Task) : List Task :=
  tasks.filter (·.side ≠ left)

/-- The state as if nothing had ever been loaded on one side. -/
def without (left : Side) (s : State) : State :=
  match left with
  | .graph => { s with generation := 0, display := none, tasks := others .graph s.tasks }
  | .file => { s with fileGeneration := 0, file := none, tasks := others .file s.tasks }

end State

section Lists

variable {α : Type} {p : α → Bool} {l : List α} {i : Nat} {a b : α}

theorem getElem?_filter_of_kept (h : l[i]? = some a) (ha : p a = true) :
    (l.filter p)[(l.take i).countP p]? = some a := by
  induction l generalizing i with
  | nil => simp at h
  | cons x l ih =>
    cases i with
    | zero =>
      obtain rfl : x = a := by simpa using h
      simp [ha]
    | succ i =>
      have hrest := ih (by simpa using h)
      cases hx : p x <;> simp [hx, hrest]

theorem getElem?_filter_of_none (h : l[i]? = none) :
    (l.filter p)[(l.take i).countP p]? = none := by
  have hall : l.take i = l := List.take_of_length_le (List.getElem?_eq_none_iff.mp h)
  rw [hall, List.countP_eq_length_filter]
  exact List.getElem?_eq_none (Nat.le_refl _)

theorem filter_set_of_kept (h : l[i]? = some a) (ha : p a = true) (hb : p b = true) :
    (l.set i b).filter p = (l.filter p).set ((l.take i).countP p) b := by
  induction l generalizing i with
  | nil => simp at h
  | cons x l ih =>
    cases i with
    | zero =>
      obtain rfl : x = a := by simpa using h
      simp [ha, hb]
    | succ i =>
      have hrest := ih (by simpa using h)
      cases hx : p x <;> simp [hx, hrest]

theorem filter_set_of_left (h : l[i]? = some a) (ha : p a = false) (hb : p b = false) :
    (l.set i b).filter p = l.filter p := by
  induction l generalizing i with
  | nil => simp at h
  | cons x l ih =>
    cases i with
    | zero =>
      obtain rfl : x = a := by simpa using h
      simp [ha, hb]
    | succ i =>
      have hrest := ih (by simpa using h)
      cases hx : p x <;> simp [hx, hrest]

end Lists

namespace State

variable {setup : Setup} {left : Side} {s : State} {i : Nat} {t u : Task}

@[simp] theorem tasks_without (left : Side) (s : State) :
    (s.without left).tasks = others left s.tasks := by
  cases left <;> rfl

theorem renumbered_sides (left : Side) (s : State) (i : Nat) :
    renumbered left s.sides i = (s.tasks.take i).countP (·.side ≠ left) := by
  rw [renumbered, sides, ← List.map_take, List.countP_map]
  rfl

def OnSideOf (s : State) (i : Nat) (t : Task) : Prop :=
  s.sides[i]? = some t.side

theorem onSideOf_of_task? (h : s.task? i = some t) : s.OnSideOf i t := by
  rw [OnSideOf, sides, List.getElem?_map]
  exact congrArg (Option.map Task.side) h

theorem OnSideOf.exists_task (h : s.OnSideOf i t) :
    ∃ u, s.tasks[i]? = some u ∧ u.side = t.side := by
  rwa [OnSideOf, sides, List.getElem?_map, Option.map_eq_some_iff] at h

theorem OnSideOf.congr {s' : State} (h : s.OnSideOf i t) (hsides : s'.sides = s.sides)
    (hu : u.side = t.side) : s'.OnSideOf i u := by
  rwa [OnSideOf, hsides, hu]

theorem task?_without (ht : s.task? i = some t) (hkept : t.side ≠ left) :
    (s.without left).task? (renumbered left s.sides i) = some t := by
  rw [task?, tasks_without, renumbered_sides]
  exact getElem?_filter_of_kept ht (by simpa using hkept)

theorem task?_without_of_none (h : s.task? i = none) :
    (s.without left).task? (renumbered left s.sides i) = none := by
  rw [task?, tasks_without, renumbered_sides]
  exact getElem?_filter_of_none h

theorem without_replace_of_left (h : s.OnSideOf i t) (hleft : t.side = left) :
    (s.replace i t).without left = s.without left := by
  obtain ⟨u, hu, hside⟩ := h.exists_task
  have hset : others left (s.tasks.set i t) = others left s.tasks :=
    filter_set_of_left hu (by simp [hside, hleft]) (by simp [hleft])
  cases left <;> simp only [without, replace, hset]

theorem without_replace_of_kept (h : s.OnSideOf i t) (hkept : t.side ≠ left) :
    (s.replace i t).without left = (s.without left).replace (renumbered left s.sides i) t := by
  obtain ⟨u, hu, hside⟩ := h.exists_task
  have hset : others left (s.tasks.set i t) =
      (others left s.tasks).set (renumbered left s.sides i) t := by
    rw [renumbered_sides]
    exact filter_set_of_kept hu (by simp [hside, hkept]) (by simp [hkept])
  cases left <;> simp only [without, replace, hset]

theorem sides_replace (h : s.OnSideOf i t) : (s.replace i t).sides = s.sides := by
  obtain ⟨hi, hside⟩ := List.getElem?_eq_some_iff.mp h
  rw [sides, replace, List.map_set, ← hside]
  exact List.set_getElem_self hi

@[simp] theorem sides_clear (s : State) (t : Task) : (s.clear t).sides = s.sides := by
  unfold clear
  split <;> (try split) <;> rfl

theorem without_clear_of_left (s : State) (hleft : t.side = left) :
    (s.clear t).without left = s.without left := by
  subst hleft
  unfold clear Task.side
  cases t.stage with
  | detail g => rfl
  | graph g focal => exact (apply_ite _ _ _ _).trans (ite_self _)
  | file g path => exact (apply_ite _ _ _ _).trans (ite_self _)

theorem without_clear_of_kept (s : State) (hkept : t.side ≠ left) :
    (s.clear t).without left = (s.without left).clear t := by
  obtain ⟨stage, fetches, outcome⟩ := t
  cases stage with
  | detail g => rfl
  | graph g focal =>
    cases left with
    | graph => exact absurd rfl hkept
    | file => exact apply_ite _ _ _ _
  | file g path =>
    cases left with
    | graph => exact apply_ite _ _ _ _
    | file => exact absurd rfl hkept

theorem exists_advance_eq (setup : Setup) (s : State) (i : Nat) (t : Task) :
    ∃ (s' : State) (u : Task), s.advance setup i t = s'.replace i u ∧ u.side = t.side ∧
      s'.sides = s.sides ∧ s'.without t.side = s.without t.side := by
  obtain ⟨stage, fetches, outcome⟩ := t
  unfold advance
  cases stage with
  | detail | graph | file =>
    dsimp only
    split
    · exact ⟨s, _, rfl, rfl, rfl, rfl⟩
    · split
      · exact ⟨s, _, rfl, rfl, rfl, rfl⟩
      · exact ⟨_, _, rfl, rfl, rfl, rfl⟩

theorem without_advance_of_left (h : s.OnSideOf i t) (hleft : t.side = left) :
    (s.advance setup i t).without left = s.without left := by
  obtain ⟨s', u, hadvance, hu, hsides, hsame⟩ := exists_advance_eq setup s i t
  rw [hadvance, without_replace_of_left (h.congr hsides hu) (hu.trans hleft), ← hleft, hsame]

theorem without_advance_of_kept (h : s.OnSideOf i t) (hkept : t.side ≠ left) :
    (s.advance setup i t).without left =
      (s.without left).advance setup (renumbered left s.sides i) t := by
  have hreplace (s' : State) (u : Task) (hs : s'.sides = s.sides) (hu : u.side = t.side) :
      (s'.replace i u).without left =
        (s'.without left).replace (renumbered left s.sides i) u := by
    rw [without_replace_of_kept (h.congr hs hu) (hu ▸ hkept), hs]
  obtain ⟨stage, fetches, outcome⟩ := t
  cases stage with
  | detail | graph =>
    obtain rfl : left = .file := by cases left <;> first | rfl | exact absurd rfl hkept
    have hg : (s.without .file).generation = s.generation := rfl
    simp only [advance, hg]
    split
    · exact hreplace s _ rfl rfl
    · split
      · exact hreplace s _ rfl rfl
      · exact hreplace _ _ rfl rfl
  | file =>
    obtain rfl : left = .graph := by cases left <;> first | rfl | exact absurd rfl hkept
    have hg : (s.without .graph).fileGeneration = s.fileGeneration := rfl
    simp only [advance, hg]
    split
    · exact hreplace s _ rfl rfl
    · split
      · exact hreplace s _ rfl rfl
      · exact hreplace _ _ rfl rfl

theorem without_fail_of_left (h : s.OnSideOf i t) (hleft : t.side = left) (e : Failure) :
    ((s.clear t).fail i t e).without left = s.without left := by
  have h' : (s.clear t).OnSideOf i (t.finish (.failed e)) := h.congr (sides_clear s t) rfl
  rw [fail, without_replace_of_left h' hleft, without_clear_of_left s hleft]

theorem without_fail_of_kept (h : s.OnSideOf i t) (hkept : t.side ≠ left) (e : Failure) :
    ((s.clear t).fail i t e).without left =
      ((s.without left).clear t).fail (renumbered left s.sides i) t e := by
  have h' : (s.clear t).OnSideOf i (t.finish (.failed e)) := h.congr (sides_clear s t) rfl
  rw [fail, without_replace_of_kept h' hkept, without_clear_of_kept s hkept, sides_clear]
  rfl

theorem without_settle_of_left (h : s.OnSideOf i t) (hleft : t.side = left) (e : Endpoint)
    (reply : Except Failure Json) : (s.settle setup i t e reply).without left = s.without left := by
  have h' : s.OnSideOf i { t with fetches := t.fetches.map (answered e reply) } := h
  unfold settle
  cases reply with
  | error failure => exact without_fail_of_left h' hleft failure
  | ok v =>
    dsimp only
    split
    · exact without_replace_of_left h' hleft
    · exact without_advance_of_left h' hleft

theorem without_settle_of_kept (h : s.OnSideOf i t) (hkept : t.side ≠ left) (e : Endpoint)
    (reply : Except Failure Json) : (s.settle setup i t e reply).without left =
      (s.without left).settle setup (renumbered left s.sides i) t e reply := by
  have h' : s.OnSideOf i { t with fetches := t.fetches.map (answered e reply) } := h
  unfold settle
  cases reply with
  | error failure => exact without_fail_of_kept h' hkept failure
  | ok v =>
    dsimp only
    split
    · exact without_replace_of_kept h' hkept
    · exact without_advance_of_kept h' hkept

/-- An event on the side that is left out is not seen; any other has the same effect without it. -/
theorem without_step (setup : Setup) (left : Side) (s : State) (event : Event) :
    (s.step setup event).without left =
      if event.side? s.sides = some left then s.without left
      else (s.without left).step setup (event.renumber (renumbered left s.sides)) := by
  have hnone (i : Nat) (h : s.task? i = none) : s.sides[i]? = none := by
    rw [sides, List.getElem?_map, ← task?, h]
    rfl
  cases event with
  | explore | exploreId | loadFile =>
    cases left <;> simp [step, without, add, others, Event.side?, Event.starts?, Event.renumber,
      Task.side, Stage.side]
  | settle i e reply =>
    cases ht : s.task? i with
    | none => simp [step, ht, Event.side?, hnone i ht, Event.renumber, task?_without_of_none ht]
    | some t =>
      have h := onSideOf_of_task? ht
      have hside : Event.side? s.sides (.settle i e reply) = some t.side := h
      by_cases hleft : t.side = left
      · rw [hside, hleft, if_pos rfl]
        simp only [step, ht]
        split
        · exact without_settle_of_left h hleft e reply
        · rfl
      · rw [hside, if_neg (by simpa using hleft)]
        simp only [step, Event.renumber, ht, accepts, task?_without ht hleft, Option.any_some]
        split
        · exact without_settle_of_kept h hleft e reply
        · rfl
  | cancel i =>
    cases ht : s.task? i with
    | none => simp [step, ht, Event.side?, hnone i ht, Event.renumber, task?_without_of_none ht]
    | some t =>
      have h := onSideOf_of_task? ht
      have hside : Event.side? s.sides (.cancel i) = some t.side := h
      have h' : s.OnSideOf i (t.finish .cancelled) := h
      by_cases hleft : t.side = left
      · rw [hside, hleft, if_pos rfl]
        simp only [step, ht]
        split
        · exact without_replace_of_left h' hleft
        · rfl
      · rw [hside, if_neg (by simpa using hleft)]
        simp only [step, Event.renumber, ht, task?_without ht hleft]
        split
        · exact without_replace_of_kept h' hleft
        · rfl

theorem sides_fail (h : s.OnSideOf i t) (e : Failure) :
    ((s.clear t).fail i t e).sides = s.sides := by
  have h' : (s.clear t).OnSideOf i (t.finish (.failed e)) := h.congr (sides_clear s t) rfl
  exact (sides_replace h').trans (sides_clear s t)

theorem sides_advance (h : s.OnSideOf i t) : (s.advance setup i t).sides = s.sides := by
  obtain ⟨s', u, hadvance, hu, hsides, -⟩ := exists_advance_eq setup s i t
  rw [hadvance, sides_replace (h.congr hsides hu), hsides]

theorem sides_settle (h : s.OnSideOf i t) (e : Endpoint) (reply : Except Failure Json) :
    (s.settle setup i t e reply).sides = s.sides := by
  have h' : s.OnSideOf i { t with fetches := t.fetches.map (answered e reply) } := h
  unfold settle
  cases reply with
  | error failure => exact sides_fail h' failure
  | ok v =>
    dsimp only
    split
    · exact sides_replace h'
    · exact sides_advance h'

theorem sides_step (setup : Setup) (s : State) (event : Event) :
    (s.step setup event).sides = s.sides ++ event.starts?.toList := by
  cases event with
  | explore | exploreId | loadFile =>
    simp [step, add, sides, Event.starts?, Task.side, Stage.side]
  | settle i e reply =>
    cases ht : s.task? i with
    | none => simp [step, ht, Event.starts?]
    | some t =>
      simp only [step, ht, Event.starts?, Option.toList_none, List.append_nil]
      split
      · exact sides_settle (onSideOf_of_task? ht) e reply
      · rfl
  | cancel i =>
    cases ht : s.task? i with
    | none => simp [step, ht, Event.starts?]
    | some t =>
      have h : s.OnSideOf i t := onSideOf_of_task? ht
      have h' : s.OnSideOf i (t.finish .cancelled) := h
      simp only [step, ht, Event.starts?, Option.toList_none, List.append_nil]
      split
      · exact sides_replace h'
      · rfl

theorem sides_dropUnsent (h : s.OnSideOf i t) : (s.dropUnsent t i).sides = s.sides := by
  unfold dropUnsent
  split
  · rfl
  · have h' : s.OnSideOf i { t with fetches := t.fetches.filter (!·.isPending) } := h
    exact sides_fail h' _

theorem without_dropUnsent_of_left (h : s.OnSideOf i t) (hleft : t.side = left) :
    (s.dropUnsent t i).without left = s.without left := by
  unfold dropUnsent
  split
  · rfl
  · have h' : s.OnSideOf i { t with fetches := t.fetches.filter (!·.isPending) } := h
    exact without_fail_of_left h' hleft _

theorem without_dropUnsent_of_kept (h : s.OnSideOf i t) (hkept : t.side ≠ left) :
    (s.dropUnsent t i).without left =
      (s.without left).dropUnsent t (renumbered left s.sides i) := by
  unfold dropUnsent
  split
  · rfl
  · have h' : s.OnSideOf i { t with fetches := t.fetches.filter (!·.isPending) } := h
    exact without_fail_of_kept h' hkept _

theorem settled_from {tasks : List Task} {before : List Side}
    (h : s.sides = before ++ tasks.map Task.side) :
    let settled := (tasks.zipIdx before.length).foldl (fun s (t, i) => s.dropUnsent t i) s
    settled.sides = s.sides ∧
      settled.without left = ((others left tasks).zipIdx (before.countP (· ≠ left))).foldl
        (fun s (t, i) => s.dropUnsent t i) (s.without left) := by
  induction tasks generalizing s before with
  | nil => exact ⟨rfl, rfl⟩
  | cons t tasks ih =>
    have ht : s.OnSideOf before.length t := by simp [OnSideOf, h]
    have hsides := sides_dropUnsent ht
    have hrest : (s.dropUnsent t before.length).sides =
        (before ++ [t.side]) ++ tasks.map Task.side := by
      rw [hsides, h, List.map_cons, List.append_cons]
    obtain ⟨hsame, hwithout⟩ := ih hrest
    have hnumber : renumbered left s.sides before.length = before.countP (· ≠ left) := by
      rw [renumbered, h, List.take_left]
    rw [List.length_append, List.length_singleton] at hsame hwithout
    rw [List.countP_append] at hwithout
    rw [List.zipIdx_cons, List.foldl_cons]
    refine ⟨hsame.trans hsides, hwithout.trans ?_⟩
    by_cases hleft : t.side = left
    · rw [without_dropUnsent_of_left ht hleft]
      simp [others, hleft]
    · rw [without_dropUnsent_of_kept ht hleft, hnumber]
      simp [others, hleft]

theorem sides_settled (s : State) : s.settled.sides = s.sides := by
  have h : s.sides = [] ++ s.tasks.map Task.side := rfl
  exact (@settled_from .graph s s.tasks [] h).1

theorem without_settled (left : Side) (s : State) :
    s.settled.without left = (s.without left).settled := by
  have h : s.sides = [] ++ s.tasks.map Task.side := rfl
  unfold settled
  rw [tasks_without]
  exact (settled_from h).2

theorem sides_respond (setup : Setup) (s : State) (event : Event) :
    (s.respond setup event).sides = s.sides ++ event.starts?.toList :=
  (sides_settled _).trans (sides_step setup s event)

theorem Sent.without (h : s.Sent) (left : Side) : (s.without left).Sent := by
  intro i t ht
  have hmem : t ∈ others left s.tasks := tasks_without left s ▸ List.mem_of_getElem? ht
  obtain ⟨j, hj⟩ := List.mem_iff_getElem?.mp (List.mem_filter.mp hmem).1
  exact h j t hj

theorem without_respond (h : s.Sent) (setup : Setup) (left : Side) (event : Event) :
    (s.respond setup event).without left =
      if event.side? s.sides = some left then s.without left
      else (s.without left).respond setup (event.renumber (renumbered left s.sides)) := by
  rw [respond, without_settled, without_step]
  split
  · exact settled_of_sent (h.without left)
  · rfl

theorem without_run (h : s.Sound) (setup : Setup) (left : Side) (events : List Event) :
    (s.run setup events).without left =
      (s.without left).run setup (Explorer.without left s.sides events) := by
  -- The sides of all tasks grow with the events, so they are generalized with the state.
  induction events generalizing s with
  | nil => rfl
  | cons event events ih =>
    have hrest := ih (h.respond setup event)
    rw [sides_respond, without_respond h.sent] at hrest
    refine hrest.trans ?_
    rw [Explorer.without]
    split <;> rfl

end State

theorem without_append (left : Side) (sides : List Side) (before after : List Event) :
    without left sides (before ++ after) = without left sides before ++
      without left (sides ++ before.filterMap Event.starts?) after := by
  induction before generalizing sides with
  | nil => simp [without]
  | cons event events ih =>
    have hstarts : (event :: events).filterMap Event.starts? =
        event.starts?.toList ++ events.filterMap Event.starts? := by
      cases h : event.starts? <;> simp [h]
    simp only [List.cons_append, without, ih, hstarts, List.append_assoc]
    split <;> rfl

open State

/-- Loads of graphs and loads of files do not interfere. After every event of a run, the graph side
is as it is after those of the events that are not on the file side, and the file side as it is
after those that are not on the graph side: generations, what is shown, and every task with its
requests and its outcome. -/
theorem sides_apart (setup : Setup) (before after : List Event) :
    let s := ({} : State).run setup before
    let graphs := ({} : State).run setup (without .file [] before)
    let files := ({} : State).run setup (without .graph [] before)
    without .file [] before <+: without .file [] (before ++ after) ∧
    without .graph [] before <+: without .graph [] (before ++ after) ∧
    graphs.generation = s.generation ∧ graphs.display = s.display ∧
    graphs.tasks = s.tasks.filter (·.side = .graph) ∧
    files.fileGeneration = s.fileGeneration ∧ files.file = s.file ∧
    files.tasks = s.tasks.filter (·.side = .file) := by
  intro s graphs files
  have hgraphs : s.without .file = graphs := without_run sound_fresh setup .file before
  have hfiles : s.without .graph = files := without_run sound_fresh setup .graph before
  refine ⟨?_, ?_, ?_⟩
  · rw [without_append]
    exact List.prefix_append _ _
  · rw [without_append]
    exact List.prefix_append _ _
  · rw [← hgraphs, ← hfiles]
    refine ⟨rfl, rfl, ?_, rfl, rfl, ?_⟩
    · exact List.filter_congr fun t _ => by cases t.side <;> rfl
    · exact List.filter_congr fun t _ => by cases t.side <;> rfl

example : without .file [] [.loadFile .null, .explore { id := "a" }, .settle 1 .callers (.ok .null),
    .settle 0 .file (.ok .null), .cancel 1] =
      [.explore { id := "a" }, .settle 0 .callers (.ok .null), .cancel 0] := rfl

end CallAtlas.Explorer
