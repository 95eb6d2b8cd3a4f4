import CallAtlas.Graph.Budget

/-! The exploration graph of a focal function: its direct neighbours in full, transitive ones
within a budget, and edges that fan out from layer to layer. -/
namespace CallAtlas.Graph

structure Material where
  focal : FunctionNode
  neighbors : List TraversalNode := []
  callees : List TraversalNode := []
  callers : List TraversalNode := []
deriving Inhabited

namespace Material

def direct (m : Material) (options : Options) : List TraversalNode :=
  (kept options.extension m.neighbors).filter (·.id != m.focal.id)

def directIds (m : Material) (options : Options) : List String :=
  ((m.direct options).map (·.id)).eraseDups

def excluded (m : Material) (options : Options) : List String :=
  m.focal.id :: m.directIds options

def rows (m : Material) : Direction → List TraversalNode
  | .caller => m.callers
  | .callee => m.callees

def pool (m : Material) (options : Options) (side : Direction) : List TraversalNode :=
  Graph.pool side (m.excluded options) (kept options.extension (m.rows side))

def selection (m : Material) (options : Options) (budget : Int) : Selection :=
  select options.externalMark m.focal (Split.ofBudget budget (m.directIds options).length)
    (m.pool options .caller) (m.pool options .callee)

/-- Refuses rows whose file is no text, neighbours first. -/
def checkFiles (m : Material) : Except Failure Unit := do
  Graph.checkFiles m.neighbors
  Graph.checkFiles m.callers
  Graph.checkFiles m.callees

end Material

def directTags (n : TraversalNode) : Tags :=
  .ofList (.direct :: (n.direction.map Tag.ofDirection).toList)

def transitiveTags (side : Direction) : Tags :=
  .ofList [.transitive, .ofDirection side]

def mergeDirect (g : Graph) (nodes : List TraversalNode) : Graph :=
  nodes.foldl (fun g n => g.merge n.toFunctionNode (directTags n) 1) g

def mergeChosen (side : Direction) (g : Graph) (nodes : List TraversalNode) : Graph :=
  nodes.foldl (fun g n => g.merge n.toFunctionNode (transitiveTags side) n.depth) g

/-- The nodes of a graph. The focal function comes last and nothing overwrites it. -/
def nodesOf (focal : FunctionNode) (direct : List TraversalNode) (chosen : Selection) : Graph :=
  let g := mergeDirect .empty direct
  let g := mergeChosen .caller g chosen.callers
  let g := mergeChosen .callee g chosen.callees
  g.merge focal (.ofList [.focus]) 0

/-- The edge between a node and one farther out: callers point at what they call. -/
def link (side : Direction) (kind : EdgeKind) (near far : String) : Edge :=
  match side with
  | .caller => ⟨far, near, kind, side⟩
  | .callee => ⟨near, far, kind, side⟩

def directLinks (focal : String) (direct : List TraversalNode) : List Edge :=
  direct.filterMap fun n => n.direction.map fun side => link side .direct focal n.id

def layer (side : Direction) (direct chosen : List TraversalNode) (depth : Int) : List String :=
  let near := if depth = 1 then direct.filter (·.direction == some side) else []
  ((near ++ chosen.filter (·.depth == depth)).map (·.id)).eraseDups

/-- The nodes one layer nearer. Depth one hangs off the focal function, and a node beyond an empty
layer has none. -/
def parents (focal : String) (side : Direction) (direct chosen : List TraversalNode)
    (depth : Int) : List String :=
  if depth ≤ 1 then [focal] else layer side direct chosen (depth - 1)

def layerLinks (focal : String) (side : Direction) (direct chosen : List TraversalNode) :
    List Edge :=
  chosen.flatMap fun n =>
    (parents focal side direct chosen n.depth).map fun near => link side .transitive near n.id

def linksOf (focal : String) (direct : List TraversalNode) (chosen : Selection) : List Edge :=
  directLinks focal direct ++ layerLinks focal .caller direct chosen.callers
    ++ layerLinks focal .callee direct chosen.callees

/-- The graph of a focal function; without an id there is nothing around it. -/
def assemble (options : Options) (budget : Int) (m : Material) : Graph :=
  if m.focal.id.isEmpty then .empty
  else
    let direct := m.direct options
    let chosen := m.selection options budget
    (linksOf m.focal.id direct chosen).foldl addEdge (nodesOf m.focal direct chosen)

/-- The whole number that a budget amounts to. A fraction will do where it leaves nothing to share;
otherwise it shows after the ranking of either side. -/
def Material.budget? (m : Material) (options : Options) : Budget → Except Failure Int
  | .whole n => pure n
  | .other kind => throw (.notSubtractable kind "int")
  | .fractional d => do
    match d.compare? (.exactly ((m.directIds options).length + 2)) with
    | some .lt | some .eq => return 0
    | _ =>
      discard (rank? options m.focal (m.pool options .caller))
      discard (rank? options m.focal (m.pool options .callee))
      throw .budgetNotWhole

/-- The graph, unless a row or the budget is refused. Without a focal function nothing is looked
at. -/
def assemble? (options : Options) (budget : Budget) (m : Material) : Except Failure Graph := do
  if m.focal.id.isEmpty then return .empty
  m.checkFiles
  let n ← m.budget? options budget
  discard (select? options m.focal (Split.ofBudget n (m.directIds options).length)
    (m.pool options .caller) (m.pool options .callee))
  return assemble options n m

end CallAtlas.Graph
