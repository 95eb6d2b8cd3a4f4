import CallAtlas.Node

namespace CallAtlas

inductive Tag
  | callee
  | caller
  | direct
  | focus
  | transitive
deriving DecidableEq, Inhabited

namespace Tag

def all : List Tag :=
  [callee, caller, direct, focus, transitive]

def name : Tag → String
  | callee => "callee"
  | caller => "caller"
  | direct => "direct"
  | focus => "focus"
  | transitive => "transitive"

def ofName? (name : String) : Option Tag :=
  all.find? (·.name == name)

def ofDirection : Direction → Tag
  | .caller => caller
  | .callee => callee

end Tag

structure Tags where
  callee : Bool := false
  caller : Bool := false
  direct : Bool := false
  focus : Bool := false
  transitive : Bool := false
deriving DecidableEq, Inhabited

namespace Tags

def has (tags : Tags) : Tag → Bool
  | .callee => tags.callee
  | .caller => tags.caller
  | .direct => tags.direct
  | .focus => tags.focus
  | .transitive => tags.transitive

def add (tags : Tags) : Tag → Tags
  | .callee => { tags with callee := true }
  | .caller => { tags with caller := true }
  | .direct => { tags with direct := true }
  | .focus => { tags with focus := true }
  | .transitive => { tags with transitive := true }

def ofList (tags : List Tag) : Tags :=
  tags.foldl add {}

def union (s t : Tags) : Tags :=
  ⟨s.callee || t.callee, s.caller || t.caller, s.direct || t.direct, s.focus || t.focus,
    s.transitive || t.transitive⟩

def toList (tags : Tags) : List Tag :=
  Tag.all.filter tags.has

@[simp] theorem has_union (s t : Tags) (tag : Tag) :
    (s.union t).has tag = (s.has tag || t.has tag) := by
  cases tag <;> rfl

@[simp] theorem has_add (s : Tags) (a b : Tag) :
    (s.add a).has b = (a == b || s.has b) := by
  cases a <;> cases b <;> rfl

@[simp] theorem mem_toList (s : Tags) (tag : Tag) : tag ∈ s.toList ↔ s.has tag = true := by
  cases tag <;> simp [toList, Tag.all]

end Tags

inductive EdgeKind
  | direct
  | transitive
deriving DecidableEq, Inhabited

namespace EdgeKind

def name : EdgeKind → String
  | direct => "direct"
  | transitive => "transitive"

def ofName? (name : String) : Option EdgeKind :=
  [direct, transitive].find? (·.name == name)

end EdgeKind

namespace Graph

structure Node where
  id : String
  name : Json
  file : Json
  line : Json
  endLine : Json
  package : Json
  depth : Int
  tags : Tags
deriving Inhabited

/-- An edge points from the calling function to the called one. -/
structure Edge where
  source : String
  target : String
  kind : EdgeKind
  relation : Direction
deriving DecidableEq, Inhabited

namespace Node

def ofFunction (n : FunctionNode) (tags : Tags) (depth : Int) : Node :=
  { id := n.id, name := n.name, file := n.file, line := n.line, endLine := n.endLine,
    package := n.package, depth, tags }

def toJson (n : Node) : Json :=
  .object [("id", .text n.id), ("name", n.name), ("file", n.file), ("line", n.line),
    ("end_line", n.endLine), ("package", n.package), ("depth", .int n.depth),
    ("tags", .list (n.tags.toList.map (Json.text ·.name)))]

end Node

namespace Edge

def pair (e : Edge) : String × String :=
  (e.source, e.target)

def toJson (e : Edge) : Json :=
  .object [("source", .text e.source), ("target", .text e.target), ("kind", .text e.kind.name),
    ("relation", .text e.relation.name)]

end Edge
end Graph

structure Graph where
  nodes : List Graph.Node := []
  edges : List Graph.Edge := []
deriving Inhabited

namespace Graph

def empty : Graph := {}

def ids (g : Graph) : List String :=
  g.nodes.map (·.id)

def node? (g : Graph) (id : String) : Option Node :=
  g.nodes.find? (·.id == id)

def has (g : Graph) (id : String) : Bool :=
  g.nodes.any (·.id == id)

/-- A node known already keeps its place and its tags; all else is replaced. -/
def upsert (n : Node) : List Node → List Node
  | [] => [n]
  | m :: ms =>
    if m.id = n.id then { n with tags := m.tags.union n.tags } :: ms else m :: upsert n ms

def merge (g : Graph) (n : FunctionNode) (tags : Tags) (depth : Int) : Graph :=
  { g with nodes := upsert (.ofFunction n tags depth) g.nodes }

def hasPair (g : Graph) (source target : String) : Bool :=
  g.edges.any fun e => e.source == source && e.target == target

/-- An edge joins two known nodes, and there is one at most from one node to another. -/
def accepts (g : Graph) (e : Edge) : Bool :=
  e.source != e.target && g.has e.source && g.has e.target && !g.hasPair e.source e.target

def addEdge (g : Graph) (e : Edge) : Graph :=
  if g.accepts e then { g with edges := g.edges ++ [e] } else g

def withTag (g : Graph) (tag : Tag) : List Node :=
  g.nodes.filter (·.tags.has tag)

def edgePairs (g : Graph) : List (String × String) :=
  g.edges.map Edge.pair

def toJson (g : Graph) : Json :=
  .object [("nodes", .list (g.nodes.map Node.toJson)), ("edges", .list (g.edges.map Edge.toJson))]

def summary (g : Graph) : String :=
  s!"GraphModel(nodes={g.nodes.length}, edges={g.edges.length})"

end Graph
end CallAtlas
