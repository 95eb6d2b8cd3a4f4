import CallAtlas.Sorting.Merging

/-! Sorting by a comparison that can fail. Which of the failures comes first depends on the
comparisons that are made: the list is cut into runs that are in order already or in reverse, short
runs are made longer by binary insertion, and neighbouring runs are merged. -/
namespace CallAtlas.Sorting

def climb (before : Before α) (x : α) (done : List α) :
    List α → Except Failure (List α × List α)
  | [] => pure ((x :: done).reverse, [])
  | y :: ys => do
    if ← before y x then return ((x :: done).reverse, y :: ys)
    climb before y (x :: done) ys

def descend (before : Before α) (x : α) (done : List α) :
    List α → Except Failure (List α × List α)
  | [] => pure (x :: done, [])
  | y :: ys => do
    if ← before y x then descend before y (x :: done) ys else return (x :: done, y :: ys)

def run (before : Before α) : List α → Except Failure (List α × List α)
  | x :: y :: ys => do
    if ← before y x then descend before y [x] ys else climb before y [x] ys
  | xs => pure (xs, [])

def insert (before : Before α) (xs : List α) (x : α) : Except Failure (List α) := do
  let i ← boundary (areNotAfter before xs x) xs.length
  return xs.take i ++ x :: xs.drop i

/-- Halves a length until it is below 64, and adds one if something was left over on the way. -/
private def halvedLength (leftOver : Bool) (length : Nat) : Nat :=
  if length < 64 then length + leftOver.toNat
  else halvedLength (leftOver || length % 2 == 1) (length / 2)
termination_by length
decreasing_by omega

def leastRun (length : Nat) : Nat :=
  halvedLength false length

/-- How deep the boundary between two runs lies in a tree over `total` places: the number of binary
digits up to the first in which the middles of the runs, as parts of the whole, differ. The middles
are given twice as large. -/
private def depth (total : Nat) : Nat → Nat → Nat → Nat
  | 0, _, _ => 0
  | fuel + 1, a, b =>
    if total ≤ a then depth total fuel (2 * (a - total)) (2 * (b - total)) + 1
    else if total ≤ b then 1
    else depth total fuel (2 * a) (2 * b) + 1

structure Waiting (α : Type) where
  run : List α
  depth : Nat := 0

structure Stack (α : Type) where
  waiting : List (Waiting α) := []
  patience : Nat := longStreak

namespace Stack

def settle (before : Before α) (depth : Nat) : Nat → Stack α → Except Failure (Stack α)
  | 0, s => pure s
  | fuel + 1, s => do
    match s.waiting with
    | last :: previous :: others =>
      if previous.depth ≤ depth then return s
      let (run, patience) ← merged before s.patience previous.run last.run
      settle before depth fuel ⟨⟨run, 0⟩ :: others, patience⟩
    | _ => return s

def push (before : Before α) (total : Nat) (s : Stack α) (run : List α) :
    Except Failure (Stack α) := do
  match s.waiting with
  | [] => return { s with waiting := [⟨run, 0⟩] }
  | last :: others =>
    let start := (others.map fun w => w.run.length).foldl (· + ·) 0
    let a := 2 * start + last.run.length
    let d := depth total (2 * total) a (a + last.run.length + run.length)
    let s ← settle before d total s
    match s.waiting with
    | [] => return { s with waiting := [⟨run, 0⟩] }
    | last :: others => return { s with waiting := ⟨run, 0⟩ :: { last with depth := d } :: others }

/-- All runs as one. Of three, the shorter of the outer ones is merged with the middle one. -/
def collapse (before : Before α) : Nat → Stack α → Except Failure (List α)
  | 0, _ => pure []
  | fuel + 1, s => do
    match s.waiting with
    | [] => return []
    | [only] => return only.run
    | [last, previous] => return (← merged before s.patience previous.run last.run).1
    | last :: middle :: earlier :: others =>
      if earlier.run.length < last.run.length then
        let (run, patience) ← merged before s.patience earlier.run middle.run
        collapse before fuel ⟨last :: ⟨run, 0⟩ :: others, patience⟩
      else
        let (run, patience) ← merged before s.patience middle.run last.run
        collapse before fuel ⟨⟨run, 0⟩ :: earlier :: others, patience⟩

end Stack

/-- Puts the runs of a list on a stack; there are no more of them than `fuel`. -/
def pile (before : Before α) (total : Nat) : Nat → Stack α → List α →
    Except Failure (Stack α)
  | 0, s, _ => pure s
  | _, s, [] => pure s
  | fuel + 1, s, x :: xs => do
    let (first, rest) ← run before (x :: xs)
    let more := leastRun total - first.length
    let first ← (rest.take more).foldlM (insert before) first
    pile before total fuel (← s.push before total first) (rest.drop more)

def sort (before : Before α) (xs : List α) : Except Failure (List α) := do
  let s ← pile before xs.length xs.length {} xs
  s.collapse before xs.length

def check (before : Before α) (xs : List α) : Except Failure Unit :=
  discard (sort before xs)

end CallAtlas.Sorting
