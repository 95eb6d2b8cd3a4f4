import CallAtlas.Graph.Budget

namespace CallAtlas.Graph

private def wholeOf? : Json → Option Int
  | .bool b => some (if b then 1 else 0)
  | .int n => some n
  | _ => none

def difference (a b : Json) : Except Failure Json :=
  match wholeOf? a, wholeOf? b with
  | some m, some n => pure (.int (m - n))
  | _, _ =>
    match a.number?, b.number? with
    | some x, some y => pure (.double (x.nearest.minus y.nearest))
    | _, _ => throw (.notSubtractable a.kindName b.kindName)

private def wholeHalf : Json → Json
  | .int n => .int (n / 2)
  | .double d => .double d.wholeHalf
  | value => value

structure Shares where
  remaining : Json
  callers : Json
  callees : Json
deriving Inhabited

/-- As for whole budgets: a single place stays empty, and half of the room, cut down, goes to the
callers. -/
def Shares.ofBudget (budget direct : Json) : Except Failure Shares := do
  let room ← difference (← difference budget (.int 1)) direct
  match room.number?.bind fun d => d.compare? (.exactly 1) with
  | some .lt | some .eq => return ⟨.int 0, .int 0, .int 0⟩
  | _ =>
    let half := wholeHalf room
    return ⟨room, half, ← difference room half⟩

def Shares.whole? (s : Shares) : Option Split := do
  return ⟨← wholeOf? s.remaining, ← wholeOf? s.callers, ← wholeOf? s.callees⟩

def Shares.hasRoom (s : Shares) : Bool :=
  match s.remaining.number?.bind fun d => d.compare? (.exactly 0) with
  | some .lt | some .eq => false
  | _ => true

/-- The selection for shares of any kind. Those that leave no room select nothing, and others that
are not whole show after the ranking of either side. -/
def Shares.select? (s : Shares) (options : Options) (focal : FunctionNode)
    (callers callees : List TraversalNode) : Except Failure Selection := do
  match s.whole? with
  | some split => Graph.select? options focal split callers callees
  | none =>
    if !s.hasRoom then return {}
    discard (rank? options focal callers)
    discard (rank? options focal callees)
    throw .budgetNotWhole

end CallAtlas.Graph
