import CallAtlas.Failure

/-! Merging two runs that are in order. The heads are compared one by one; where one run has won often
enough in a row, it is searched for the place up to which it goes on winning. Comparisons can fail,
so it matters which places are looked at: steps that grow from one end, and then halves of what is
left. -/
namespace CallAtlas.Sorting

abbrev Test := Nat → Except Failure Bool

def halved (passes : Test) : Nat → Nat → Nat → Except Failure Nat
  | 0, low, _ => pure low
  | fuel + 1, low, high => do
    if high ≤ low then return low
    let middle := low + (high - low) / 2
    if ← passes middle then halved passes fuel (middle + 1) high else halved passes fuel low middle

/-- Looks at places farther and farther away while the test passes: the last of them that passed, and
one where it did not, which is `count` at most. -/
def striding (passes : Test) (count : Nat) : Nat → Nat → Nat → Except Failure (Nat × Nat)
  | 0, passed, _ => pure (passed, count)
  | fuel + 1, passed, next => do
    if count ≤ next then return (passed, count)
    if ← passes next then striding passes count fuel next (2 * next + 1) else return (passed, next)

def boundary (passes : Test) (count : Nat) : Except Failure Nat :=
  halved passes count 0 count

def boundaryFromStart (passes : Test) (count : Nat) : Except Failure Nat := do
  if !(← passes 0) then return 0
  let (passed, stopped) ← striding passes count count 0 1
  halved passes count (passed + 1) stopped

def boundaryFromEnd (passes : Test) (count : Nat) : Except Failure Nat := do
  if ← passes (count - 1) then return count
  let stops (distance : Nat) : Except Failure Bool := do
    return !(← passes (count - 1 - distance))
  let (near, far) ← striding stops count count 0 1
  halved passes count (count - far) (count - 1 - near)

abbrev Before (α : Type) := α → α → Except Failure Bool

def areBefore (before : Before α) (xs : List α) (y : α) : Test := fun i =>
  match xs[i]? with
  | some x => before x y
  | none => pure false

def areNotAfter (before : Before α) (xs : List α) (y : α) : Test := fun i =>
  match xs[i]? with
  | some x => return !(← before y x)
  | none => pure false

/-- A streak of so many elements is worth a search for the next one. -/
def longStreak : Nat := 7

structure Merge (α : Type) where
  first : List α
  second : List α
  done : List α := []
  patience : Nat

inductive Mode
  /-- Heads are compared; the run that won last has won so many times in a row. -/
  | comparing (firstWins secondWins : Nat)
  | searching

namespace Merge

/-- Of equal elements those of the first run come first; the runs are merged from their heads on. The
last element of the first run is known to come after all of the second. -/
def upward (before : Before α) : Nat → Mode → Merge α → Except Failure (Merge α)
  | 0, _, m => pure m
  | fuel + 1, mode, m => do
    match m.first, m.second with
    | x :: xs, y :: ys =>
      match mode with
      | .comparing i j =>
        let secondWins ← before y x
        let next := if secondWins then { m with second := ys, done := y :: m.done }
          else { m with first := xs, done := x :: m.done }
        if next.first.length ≤ 1 ∨ next.second.isEmpty then return next
        let i := if secondWins then 0 else i + 1
        let j := if secondWins then j + 1 else 0
        if max i j < m.patience then upward before fuel (.comparing i j) next
        else upward before fuel .searching { next with patience := m.patience + 1 }
      | .searching =>
        let patience := max 1 (m.patience - 1)
        let i ← boundaryFromStart (areNotAfter before m.first y) m.first.length
        let next := { m with
          first := m.first.drop i, done := (m.first.take i).reverse ++ m.done, patience }
        if i ≠ 0 ∧ next.first.length ≤ 1 then return next
        let next := { next with second := ys, done := y :: next.done }
        match next.first, ys with
        | x :: xs, _ :: _ =>
          let j ← boundaryFromStart (areBefore before ys x) ys.length
          let next := { next with second := ys.drop j, done := (ys.take j).reverse ++ next.done }
          if next.second.isEmpty then return next
          let next := { next with first := xs, done := x :: next.done }
          if xs.length ≤ 1 then return next
          if longStreak ≤ max i j then upward before fuel .searching next
          else upward before fuel (.comparing 0 0) { next with patience := patience + 1 }
        | _, _ => return next
    | _, _ => return m

/-- The same from the ends of the runs on, which are given in reverse. The first element of the
second run is known to come before all of the first. -/
def downward (before : Before α) : Nat → Mode → Merge α → Except Failure (Merge α)
  | 0, _, m => pure m
  | fuel + 1, mode, m => do
    match m.first, m.second with
    | x :: xs, y :: ys =>
      match mode with
      | .comparing i j =>
        let firstWins ← before y x
        let next := if firstWins then { m with first := xs, done := x :: m.done }
          else { m with second := ys, done := y :: m.done }
        if next.first.isEmpty ∨ next.second.length ≤ 1 then return next
        let i := if firstWins then i + 1 else 0
        let j := if firstWins then 0 else j + 1
        if max i j < m.patience then downward before fuel (.comparing i j) next
        else downward before fuel .searching { next with patience := m.patience + 1 }
      | .searching =>
        let patience := max 1 (m.patience - 1)
        let kept ← boundaryFromEnd (areNotAfter before m.first.reverse y) m.first.length
        let i := m.first.length - kept
        let next := { m with
          first := m.first.drop i, done := (m.first.take i).reverse ++ m.done, patience }
        if next.first.isEmpty then return next
        let next := { next with second := ys, done := y :: next.done }
        match next.first, ys with
        | x :: xs, _ :: _ :: _ =>
          let kept ← boundaryFromEnd (areBefore before ys.reverse x) ys.length
          let j := ys.length - kept
          let next := { next with second := ys.drop j, done := (ys.take j).reverse ++ next.done }
          if j ≠ 0 ∧ next.second.length ≤ 1 then return next
          let next := { next with first := xs, done := x :: next.done }
          if xs.isEmpty then return next
          if longStreak ≤ max i j then downward before fuel .searching next
          else downward before fuel (.comparing 0 0) { next with patience := patience + 1 }
        | _, _ => return next
    | _, _ => return m

/-- The shorter run decides where merging begins. -/
def run (before : Before α) (patience : Nat) (first second : List α) :
    Except Failure (List α × Nat) := do
  let size := first.length + second.length
  if first.length ≤ second.length then
    let start : Merge α :=
      { first, second := second.drop 1, done := (second.take 1).reverse, patience }
    let m ← if first.length ≤ 1 then pure start
      else upward before (2 * size) (.comparing 0 0) start
    return (m.done.reverse ++ (m.second ++ m.first), m.patience)
  else
    let first := first.reverse
    let start : Merge α :=
      { first := first.drop 1, second := second.reverse, done := first.take 1, patience }
    let m ← if second.length ≤ 1 then pure start
      else downward before (2 * size) (.comparing 0 0) start
    return ((m.second.reverse ++ m.first.reverse) ++ m.done, m.patience)

end Merge

/-- Two neighbouring runs as one. What of the first comes before all of the second stays where it is,
and so does what of the second comes after all of the first. -/
def merged (before : Before α) (patience : Nat) (first second : List α) :
    Except Failure (List α × Nat) := do
  match second with
  | [] => return (first, patience)
  | y :: _ =>
    let i ← boundaryFromStart (areNotAfter before first y) first.length
    match (first.drop i).getLast? with
    | none => return (first ++ second, patience)
    | some x =>
      let j ← boundaryFromEnd (areBefore before second x) second.length
      if j = 0 then return (first ++ second, patience)
      let (middle, patience) ← Merge.run before patience (first.drop i) (second.take j)
      return (first.take i ++ middle ++ second.drop j, patience)

end CallAtlas.Sorting
