import CallAtlas.Graph.Basic
import CallAtlas.Json.Operations
import CallAtlas.Path
import CallAtlas.Sorting

/-! Choosing transitive neighbours within a budget: which rows are kept, in which order they rank,
and how many of each side are taken. -/
namespace CallAtlas.Graph

structure Options where
  extension : String := ".go"
  externalMark : String := "ext:"
  /-- The reason why no id can be compared with the mark, if the mark is no text. -/
  markFault : Option Failure := none
deriving Inhabited

/-- Options of values of any kind. No file has an extension that is no text. -/
def Options.ofJson (extension mark : Json) : Options where
  extension := extension.text?.getD "/"
  externalMark := mark.text?.getD ""
  markFault := if mark.text?.isSome || mark.isEmpty then none else some (.notBeginning mark.kindName)

/-- A row is kept if it has an id and either no file or one of the followed language. -/
def keeps (extension : String) (n : TraversalNode) : Bool :=
  !n.id.isEmpty &&
    match n.file with
    | .text file => file.isEmpty || Path.extension file == extension
    | file => file.isEmpty

def unreadable? (n : TraversalNode) : Option Failure :=
  match n.file with
  | .text _ => none
  | file =>
    if n.id.isEmpty || file.isEmpty then none
    else some (.lacksOperation file.kindName "replace")

def checkFiles (nodes : List TraversalNode) : Except Failure Unit :=
  match nodes.findSome? unreadable? with
  | some e => throw e
  | none => pure ()

def kept (extension : String) (nodes : List TraversalNode) : List TraversalNode :=
  nodes.filter (keeps extension)

def isExternal (mark id : String) : Bool :=
  !mark.isEmpty && mark.toList.isPrefixOf id.toList

/-- Whether a value is an id of a function outside. Without a mark it is not looked at. -/
def isExternal? (options : Options) (id : Json) : Except Failure Bool :=
  match options.markFault, id with
  | none, .text s => pure (isExternal options.externalMark s)
  | some e, .text _ => throw e
  | fault, value =>
    if options.externalMark.isEmpty && fault.isNone then pure false
    else throw (.lacksOperation value.kindName "startswith")

private def given (weight : Int) (b : Bool) : Int :=
  if b then weight else 0

def shares (value focal : Json) : Bool :=
  !value.isEmpty && value.same focal

/-- Lower is better. A step of depth outweighs everything else together. -/
def score (mark : String) (focal : FunctionNode) (n : TraversalNode) : Int :=
  n.depth * 100 - given 20 (shares n.package focal.package) - given 10 (shares n.file focal.file)
    - given 5 (!n.file.isEmpty) + given 15 (isExternal mark n.id)

private theorem given_bounds (weight : Int) (b : Bool) (h : 0 ≤ weight) :
    0 ≤ given weight b ∧ given weight b ≤ weight := by
  unfold given
  split <;> omega

theorem score_bounds (mark : String) (focal : FunctionNode) (n : TraversalNode) :
    n.depth * 100 - 35 ≤ score mark focal n ∧ score mark focal n ≤ n.depth * 100 + 15 := by
  have hpackage := given_bounds 20 (shares n.package focal.package) (by decide)
  have hfile := given_bounds 10 (shares n.file focal.file) (by decide)
  have hknown := given_bounds 5 (!n.file.isEmpty) (by decide)
  have hexternal := given_bounds 15 (isExternal mark n.id) (by decide)
  unfold score
  omega

theorem score_lt_of_depth_lt (mark : String) (focal : FunctionNode) {a b : TraversalNode}
    (h : a.depth < b.depth) : score mark focal a < score mark focal b := by
  have ha := score_bounds mark focal a
  have hb := score_bounds mark focal b
  omega

def ranksBefore (mark : String) (focal : FunctionNode) (a b : TraversalNode) : Bool :=
  let s := score mark focal a
  let t := score mark focal b
  decide (s < t) || s == t &&
    (a.name.before b.name || a.name.same b.name && decide (a.id ≤ b.id))

def rank (mark : String) (focal : FunctionNode) (nodes : List TraversalNode) :
    List TraversalNode :=
  nodes.mergeSort (ranksBefore mark focal)

def ranksBefore? (mark : String) (focal : FunctionNode) (a b : TraversalNode) :
    Except Failure Bool :=
  let s := score mark focal a
  let t := score mark focal b
  if s ≠ t then pure (decide (s < t))
  else if a.name.same b.name then pure (decide (a.id < b.id))
  else a.name.before? b.name

def rank? (options : Options) (focal : FunctionNode) (nodes : List TraversalNode) :
    Except Failure (List TraversalNode) := do
  match nodes, options.markFault with
  | _ :: _, some e => throw e
  | _, _ =>
    Sorting.check (ranksBefore? options.externalMark focal) nodes
    return rank options.externalMark focal nodes

inductive Budget
  | whole (n : Int)
  | fractional (d : Double)
  /-- A value that is no number. -/
  | other (kind : String)
deriving Inhabited

def Budget.ofJson : Json → Budget
  | .int n => whole n
  | .bool b => whole (if b then 1 else 0)
  | .double d => fractional d
  | value => other value.kindName

structure Split where
  remaining : Int
  callers : Int
  callees : Int
deriving DecidableEq, Inhabited

/-- What the focal function and the direct layer leave is halved; a single place stays empty. -/
def Split.ofBudget (budget direct : Int) : Split :=
  let room := budget - 1 - direct
  if room ≤ 1 then ⟨0, 0, 0⟩ else ⟨room, room / 2, room - room / 2⟩

/-- The first row of an id stands until a row of smaller depth takes its place. -/
def keepShallowest : List TraversalNode → TraversalNode → List TraversalNode
  | [], n => [n]
  | m :: ms, n =>
    if m.id = n.id then (if n.depth < m.depth then n else m) :: ms
    else m :: keepShallowest ms n

def pool (direction : Direction) (excluded : List String) (nodes : List TraversalNode) :
    List TraversalNode :=
  ((nodes.filter fun n => !excluded.contains n.id).foldl keepShallowest []).map
    fun n => { n with direction := some direction }

structure Selection where
  callers : List TraversalNode := []
  callees : List TraversalNode := []
deriving Inhabited

def Selection.size (s : Selection) : Nat :=
  s.callers.length + s.callees.length

/-- Where a list is cut for a budget; a negative one counts from the end. -/
def cutAt (budget : Int) (length : Nat) : Nat :=
  if budget < 0 then (length + budget).toNat else budget.toNat

def isCaller (n : TraversalNode) : Bool :=
  n.direction == some .caller

/-- Each side takes what its part of the room allows. Room that one side leaves goes to the best
of the others, each on its own side. -/
def select (mark : String) (focal : FunctionNode) (split : Split)
    (callers callees : List TraversalNode) : Selection :=
  if split.remaining ≤ 0 then {}
  else
    let callers := rank mark focal callers
    let callees := rank mark focal callees
    let i := cutAt split.callers callers.length
    let j := cutAt split.callees callees.length
    let first : Selection := ⟨callers.take i, callees.take j⟩
    let others := rank mark focal (callers.drop i ++ callees.drop j)
    let more := others.take (split.remaining - first.size).toNat
    ⟨first.callers ++ more.filter isCaller, first.callees ++ more.filter (!isCaller ·)⟩

def select? (options : Options) (focal : FunctionNode) (split : Split)
    (callers callees : List TraversalNode) : Except Failure Selection := do
  if split.remaining ≤ 0 then return {}
  let ranked ← rank? options focal callers
  let rankedCallees ← rank? options focal callees
  let i := cutAt split.callers ranked.length
  let j := cutAt split.callees rankedCallees.length
  if (i.min ranked.length + j.min rankedCallees.length : Int) < split.remaining then
    discard (rank? options focal (ranked.drop i ++ rankedCallees.drop j))
  return select options.externalMark focal split callers callees

end CallAtlas.Graph
