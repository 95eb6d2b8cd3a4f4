import CallAtlas.Graph.Assembly
import CallAtlas.Proofs.Keys

/-! The node table under merges: which ids it has, each of them once, and how the tags of an id add
up. Adding edges leaves the table alone. -/
namespace CallAtlas

namespace Tags

theorem ext_has {s t : Tags} (h : ∀ tag, s.has tag = true ↔ t.has tag = true) : s = t := by
  have hcallee := h .callee
  have hcaller := h .caller
  have hdirect := h .direct
  have hfocus := h .focus
  have htransitive := h .transitive
  obtain ⟨⟩ := s
  obtain ⟨⟩ := t
  simp only [has, ← Bool.eq_iff_iff] at *
  simp [*]

@[simp] theorem has_empty (tag : Tag) : ({} : Tags).has tag = false := by
  cases tag <;> rfl

theorem has_foldl_add (tags : List Tag) (s : Tags) (tag : Tag) :
    (tags.foldl add s).has tag = (tags.contains tag || s.has tag) := by
  induction tags generalizing s with
  | nil => simp
  | cons t ts ih =>
    rw [List.foldl_cons, ih, has_add, List.contains_cons, BEq.comm (a := t)]
    cases ts.contains tag <;> simp

@[simp] theorem has_ofList (tags : List Tag) (tag : Tag) :
    (ofList tags).has tag = tags.contains tag := by
  rw [ofList, has_foldl_add, has_empty, Bool.or_false]

theorem foldl_add (tags : List Tag) (s : Tags) : tags.foldl add s = s.union (ofList tags) := by
  refine ext_has fun tag => ?_
  rw [has_foldl_add, has_union, has_ofList, Bool.or_comm]

end Tags

namespace Graph

theorem has_eq_true_iff {g : Graph} {id : String} : g.has id = true ↔ id ∈ g.ids := by
  simp [has, ids]

theorem ids_upsert (n : Node) (nodes : List Node) :
    (upsert n nodes).map (·.id) = Keys.insert n.id (nodes.map (·.id)) := by
  refine Keys.map_key_eq_insert rfl (fun m ms => ?_) nodes
  by_cases h : m.id = n.id
  · simp [upsert, h]
  · simp [upsert, h]

theorem ids_merge (g : Graph) (n : FunctionNode) (tags : Tags) (depth : Int) :
    (g.merge n tags depth).ids = Keys.insert n.id g.ids :=
  ids_upsert (.ofFunction n tags depth) g.nodes

@[simp] theorem mem_ids_merge {g : Graph} {n : FunctionNode} {tags : Tags} {depth : Int}
    {id : String} : id ∈ (g.merge n tags depth).ids ↔ id ∈ g.ids ∨ id = n.id := by
  rw [ids_merge, Keys.mem_insert]

theorem nodup_ids_merge {g : Graph} (h : g.ids.Nodup) (n : FunctionNode) (tags : Tags)
    (depth : Int) : (g.merge n tags depth).ids.Nodup := by
  rw [ids_merge]
  exact Keys.nodup_insert h n.id

def tagsAt (g : Graph) (id : String) : Tags :=
  ((g.node? id).map Node.tags).getD {}

theorem find?_upsert (n : Node) (nodes : List Node) (id : String) :
    (upsert n nodes).find? (·.id == id) =
      if id = n.id then
        some { n with tags := (((nodes.find? (·.id == id)).map Node.tags).getD {}).union n.tags }
      else nodes.find? (·.id == id) := by
  induction nodes with
  | nil =>
    by_cases h : id = n.id
    · subst h
      have hu : ({} : Tags).union n.tags = n.tags := by simp [Tags.union]
      simp [upsert, hu]
    · have h' : n.id ≠ id := Ne.symm h
      simp [upsert, h, h']
  | cons m ms ih =>
    by_cases hm : m.id = n.id
    · by_cases h : id = n.id
      · subst h
        simp [upsert, hm]
      · have h' : n.id ≠ id := Ne.symm h
        have h'' : m.id ≠ id := hm ▸ h'
        simp [upsert, hm, h, h']
    · by_cases h : m.id = id
      · have h' : id ≠ n.id := h ▸ hm
        simp [upsert, h, h']
      · rw [upsert, if_neg hm, List.find?_cons_of_neg (by simpa using h), ih,
          List.find?_cons_of_neg (by simpa using h)]

structure Node.Describes (n : Node) (f : FunctionNode) : Prop where
  id : n.id = f.id
  name : n.name = f.name
  file : n.file = f.file
  line : n.line = f.line
  endLine : n.endLine = f.endLine
  package : n.package = f.package

theorem Node.describes_ofFunction (f : FunctionNode) (tags : Tags) (depth : Int) :
    (ofFunction f tags depth).Describes f :=
  ⟨rfl, rfl, rfl, rfl, rfl, rfl⟩

theorem Node.Describes.eq_ofFunction {n : Node} {f : FunctionNode} (h : n.Describes f) :
    n = .ofFunction f n.tags n.depth := by
  obtain ⟨id, name, file, line, endLine, package, depth, tags⟩ := n
  obtain ⟨rfl, rfl, rfl, rfl, rfl, rfl⟩ := h
  rfl

theorem node?_merge (g : Graph) (n : FunctionNode) (tags : Tags) (depth : Int) (id : String) :
    (g.merge n tags depth).node? id =
      if id = n.id then some (.ofFunction n ((g.tagsAt id).union tags) depth)
      else g.node? id :=
  find?_upsert (.ofFunction n tags depth) g.nodes id

theorem has_tagsAt_merge (g : Graph) (n : FunctionNode) (tags : Tags) (depth : Int)
    (id : String) (tag : Tag) :
    ((g.merge n tags depth).tagsAt id).has tag =
      ((g.tagsAt id).has tag || (decide (id = n.id) && tags.has tag)) := by
  unfold tagsAt
  rw [node?_merge]
  by_cases h : id = n.id
  · simp [h, tagsAt, Node.ofFunction]
  · simp [h]

section Layer

variable (tagsOf : TraversalNode → Tags) (depthOf : TraversalNode → Int)

def mergeAll (g : Graph) (nodes : List TraversalNode) : Graph :=
  nodes.foldl (fun g n => g.merge n.toFunctionNode (tagsOf n) (depthOf n)) g

@[simp] theorem mem_ids_mergeAll {g : Graph} {nodes : List TraversalNode} {id : String} :
    id ∈ (mergeAll tagsOf depthOf g nodes).ids ↔ id ∈ g.ids ∨ id ∈ nodes.map (·.id) := by
  induction nodes generalizing g with
  | nil => simp [mergeAll]
  | cons n ns ih =>
    unfold mergeAll at ih ⊢
    rw [List.foldl_cons, ih, mem_ids_merge, List.map_cons, List.mem_cons, or_assoc]

theorem nodup_ids_mergeAll {g : Graph} (h : g.ids.Nodup) (nodes : List TraversalNode) :
    (mergeAll tagsOf depthOf g nodes).ids.Nodup := by
  induction nodes generalizing g with
  | nil => exact h
  | cons n ns ih => exact ih (nodup_ids_merge h _ _ _)

@[simp] theorem edges_mergeAll (g : Graph) (nodes : List TraversalNode) :
    (mergeAll tagsOf depthOf g nodes).edges = g.edges := by
  induction nodes generalizing g with
  | nil => rfl
  | cons n ns ih => exact ih (g.merge n.toFunctionNode (tagsOf n) (depthOf n))

theorem has_tagsAt_mergeAll (g : Graph) (nodes : List TraversalNode) (id : String) (tag : Tag) :
    ((mergeAll tagsOf depthOf g nodes).tagsAt id).has tag =
      ((g.tagsAt id).has tag || nodes.any fun n => decide (id = n.id) && (tagsOf n).has tag) := by
  induction nodes generalizing g with
  | nil => simp [mergeAll]
  | cons n ns ih =>
    unfold mergeAll at ih ⊢
    rw [List.foldl_cons, ih, has_tagsAt_merge, List.any_cons, Bool.or_assoc]

theorem mergeAll_append (g : Graph) (xs ys : List TraversalNode) :
    mergeAll tagsOf depthOf g (xs ++ ys) =
      mergeAll tagsOf depthOf (mergeAll tagsOf depthOf g xs) ys :=
  List.foldl_append

theorem node?_mergeAll_of_not_mem (g : Graph) {nodes : List TraversalNode} {id : String}
    (h : ∀ n ∈ nodes, n.id ≠ id) : (mergeAll tagsOf depthOf g nodes).node? id = g.node? id := by
  induction nodes generalizing g with
  | nil => rfl
  | cons n ns ih =>
    unfold mergeAll at ih ⊢
    rw [List.foldl_cons, ih _ fun x hx => h x (List.mem_cons_of_mem _ hx), node?_merge,
      if_neg (Ne.symm (h n List.mem_cons_self))]

theorem node?_mergeAll_of_last (g : Graph) {before after : List TraversalNode}
    {n : TraversalNode} (h : ∀ x ∈ after, x.id ≠ n.id) :
    ∃ tags, (mergeAll tagsOf depthOf g (before ++ n :: after)).node? n.id =
      some (.ofFunction n.toFunctionNode tags (depthOf n)) := by
  rw [mergeAll_append, ← List.singleton_append, mergeAll_append, node?_mergeAll_of_not_mem _ _ _ h]
  exact ⟨_, (node?_merge _ _ _ _ _).trans (if_pos rfl)⟩

theorem node?_mergeAll_of_nodup (g : Graph) {nodes : List TraversalNode}
    (h : (nodes.map (·.id)).Nodup) {n : TraversalNode} (hn : n ∈ nodes) :
    ∃ tags, (mergeAll tagsOf depthOf g nodes).node? n.id =
      some (.ofFunction n.toFunctionNode tags (depthOf n)) := by
  obtain ⟨before, after, rfl⟩ := List.append_of_mem hn
  rw [List.map_append, List.map_cons, List.nodup_append, List.nodup_cons] at h
  apply node?_mergeAll_of_last
  rintro x hx hid
  exact h.2.1.1 (hid ▸ List.mem_map_of_mem hx)

end Layer

theorem tagsAt_of_node? {g : Graph} {id : String} {n : FunctionNode} {tags : Tags} {depth : Int}
    (h : g.node? id = some (.ofFunction n tags depth)) : g.tagsAt id = tags := by
  rw [tagsAt, h]
  rfl

theorem mergeDirect_eq (g : Graph) (nodes : List TraversalNode) :
    mergeDirect g nodes = mergeAll directTags (fun _ => 1) g nodes :=
  rfl

theorem mergeChosen_eq (side : Direction) (g : Graph) (nodes : List TraversalNode) :
    mergeChosen side g nodes = mergeAll (fun _ => transitiveTags side) (·.depth) g nodes :=
  rfl

@[simp] theorem nodes_addEdge (g : Graph) (e : Edge) : (g.addEdge e).nodes = g.nodes := by
  unfold addEdge
  split <;> rfl

@[simp] theorem nodes_foldl_addEdge (edges : List Edge) (g : Graph) :
    (edges.foldl addEdge g).nodes = g.nodes := by
  induction edges generalizing g with
  | nil => rfl
  | cons e es ih => rw [List.foldl_cons, ih, nodes_addEdge]

theorem tagsAt_of_mem {g : Graph} (h : g.ids.Nodup) {n : Node} (hn : n ∈ g.nodes) :
    g.tagsAt n.id = n.tags := by
  simp [tagsAt, node?, Keys.find?_of_mem h hn]

end Graph
end CallAtlas
