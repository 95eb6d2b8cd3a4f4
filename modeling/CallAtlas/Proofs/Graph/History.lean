import CallAtlas.Proofs.Graph.Edges
import Mathlib.Data.Finset.Lattice.Lemmas

namespace CallAtlas
namespace Graph

inductive Change
  | merge (n : FunctionNode) (tags : List Tag) (depth : Int)
  | link (e : Edge)

def change (g : Graph) : Change → Graph
  | .merge n tags depth => g.merge n (.ofList tags) depth
  | .link e => g.addEdge e

def ofChanges (changes : List Change) : Graph :=
  changes.foldl change empty

theorem ofChanges_append (changes later : List Change) :
    ofChanges (changes ++ later) = later.foldl change (ofChanges changes) :=
  List.foldl_append

theorem ofChanges_concat (changes : List Change) (c : Change) :
    ofChanges (changes ++ [c]) = (ofChanges changes).change c :=
  ofChanges_append changes [c]

structure WellFormed (g : Graph) : Prop where
  nodup_ids : g.ids.Nodup
  joins : ∀ e ∈ g.edges, g.Joins e
  nodup_pairs : g.edgePairs.Nodup

theorem accepts_iff {g : Graph} {e : Edge} :
    g.accepts e = true ↔ g.Joins e ∧ e.pair ∉ g.edgePairs := by
  rw [← hasPair_iff, Joins, ← has_eq_true_iff, ← has_eq_true_iff]
  simp [accepts, and_assoc]

theorem ids_addEdge (g : Graph) (e : Edge) : (g.addEdge e).ids = g.ids := by
  rw [ids, nodes_addEdge, ids]

theorem tagsAt_addEdge (g : Graph) (e : Edge) (id : String) :
    (g.addEdge e).tagsAt id = g.tagsAt id := by
  rw [tagsAt, node?, nodes_addEdge, tagsAt, node?]

theorem WellFormed.change {g : Graph} (h : g.WellFormed) (c : Change) :
    (g.change c).WellFormed := by
  cases c with
  | merge n tags depth =>
    exact {
      nodup_ids := nodup_ids_merge h.nodup_ids n _ depth
      joins := fun e he => by
        obtain ⟨hne, hsource, htarget⟩ := h.joins e he
        exact ⟨hne, mem_ids_merge.mpr (.inl hsource), mem_ids_merge.mpr (.inl htarget)⟩
      nodup_pairs := h.nodup_pairs }
  | link e =>
    exact {
      nodup_ids := (ids_addEdge g e).symm ▸ h.nodup_ids
      joins := fun x hx => by
        unfold Joins
        rw [Graph.change, ids_addEdge]
        rw [Graph.change, addEdge] at hx
        split at hx
        next haccepts =>
          rcases List.mem_append.mp hx with hx | hx
          · exact h.joins x hx
          · rw [List.mem_singleton.mp hx]
            exact (accepts_iff.mp haccepts).1
        next => exact h.joins x hx
      nodup_pairs := nodup_edgePairs_addEdge h.nodup_pairs e }

theorem wellFormed_ofChanges (changes : List Change) : (ofChanges changes).WellFormed := by
  induction changes using List.reverseRecOn with
  | nil =>
    exact {
      nodup_ids := List.nodup_nil
      joins := fun _ he => nomatch he
      nodup_pairs := List.nodup_nil }
  | append_singleton changes c ih =>
    rw [ofChanges_concat]
    exact ih.change c

structure Grows (g g' : Graph) : Prop where
  ids : g.ids <+: g'.ids
  edges : g.edges <+: g'.edges
  tags : ∀ id tag, (g.tagsAt id).has tag = true → (g'.tagsAt id).has tag = true

theorem Grows.refl (g : Graph) : g.Grows g :=
  ⟨List.prefix_refl _, List.prefix_refl _, fun _ _ h => h⟩

theorem Grows.trans {g g' g'' : Graph} (h : g.Grows g') (h' : g'.Grows g'') : g.Grows g'' :=
  ⟨h.ids.trans h'.ids, h.edges.trans h'.edges, fun id tag ht => h'.tags id tag (h.tags id tag ht)⟩

theorem grows_change (g : Graph) (c : Change) : g.Grows (g.change c) := by
  cases c with
  | merge n tags depth =>
    refine ⟨?_, List.prefix_refl _, fun id tag h => ?_⟩
    · rw [change, ids_merge, Keys.insert]
      split
      · exact List.prefix_refl _
      · exact List.prefix_append _ _
    · rw [change, has_tagsAt_merge, h, Bool.true_or]
  | link e =>
    refine ⟨(ids_addEdge g e).symm ▸ List.prefix_refl _, ?_,
      fun id tag h => (tagsAt_addEdge g e id).symm ▸ h⟩
    rw [change, addEdge]
    split
    · exact List.prefix_append _ _
    · exact List.prefix_refl _

theorem grows_foldl_change (g : Graph) (changes : List Change) :
    g.Grows (changes.foldl change g) := by
  induction changes generalizing g with
  | nil => exact .refl g
  | cons c cs ih => exact (grows_change g c).trans (ih _)

def Change.IsMergeOf (id : String) : Change → Prop
  | .merge n _ _ => n.id = id
  | .link _ => False

def Change.Brings (id : String) (tag : Tag) : Change → Prop
  | .merge n tags _ => n.id = id ∧ tag ∈ tags
  | .link _ => False

theorem exists_mem_concat {changes : List Change} {c : Change} {p : Change → Prop} :
    (∃ d ∈ changes ++ [c], p d) ↔ (∃ d ∈ changes, p d) ∨ p c := by
  simp only [List.mem_append, List.mem_singleton, or_and_right, exists_or, exists_eq_left]

theorem mem_ids_ofChanges {changes : List Change} {id : String} :
    id ∈ (ofChanges changes).ids ↔ ∃ c ∈ changes, c.IsMergeOf id := by
  induction changes using List.reverseRecOn with
  | nil => simp [ofChanges, empty, ids]
  | append_singleton changes c ih =>
    rw [ofChanges_concat, exists_mem_concat, ← ih]
    cases c with
    | merge n tags depth => exact mem_ids_merge.trans (or_congr_right eq_comm)
    | link e => simp [change, ids_addEdge, Change.IsMergeOf]

theorem has_tagsAt_ofChanges {changes : List Change} {id : String} {tag : Tag} :
    ((ofChanges changes).tagsAt id).has tag = true ↔ ∃ c ∈ changes, c.Brings id tag := by
  induction changes using List.reverseRecOn with
  | nil => simp [ofChanges, empty, tagsAt, node?]
  | append_singleton changes c ih =>
    rw [ofChanges_concat, exists_mem_concat, ← ih]
    cases c with
    | merge n tags depth =>
      simp [change, has_tagsAt_merge, Change.Brings, eq_comm (a := id)]
    | link e => simp [change, tagsAt_addEdge, Change.Brings]

theorem node?_foldl_change {changes : List Change} {id : String}
    (h : ∀ c ∈ changes, ¬c.IsMergeOf id) (g : Graph) :
    (changes.foldl change g).node? id = g.node? id := by
  induction changes generalizing g with
  | nil => rfl
  | cons c cs ih =>
    rw [List.foldl_cons, ih fun d hd => h d (List.mem_cons_of_mem c hd)]
    have hc := h c List.mem_cons_self
    cases c with
    | merge n tags depth => rw [change, node?_merge, if_neg (Ne.symm hc)]
    | link e => rw [change, node?, nodes_addEdge, node?]

theorem node?_of_last_merge (before after : List Change) (n : FunctionNode) (tags : List Tag)
    (depth : Int) (h : ∀ c ∈ after, ¬c.IsMergeOf n.id) :
    ∃ node, (ofChanges (before ++ .merge n tags depth :: after)).node? n.id = some node ∧
      node.Describes n ∧ node.depth = depth := by
  rw [ofChanges_append, List.foldl_cons, node?_foldl_change h]
  exact ⟨_, (node?_merge _ _ _ _ _).trans (if_pos rfl), Node.describes_ofFunction _ _ _, rfl⟩

/-- A graph whose nodes are filed under their ids, in the order in which the ids came, and which has
the pairs of its edges beside them. -/
structure Ledger where
  table : List (String × Node) := []
  edges : List Edge := []
  pairs : Finset (String × String) := ∅

namespace Ledger

def keys (l : Ledger) : List String :=
  l.table.map Prod.fst

def get? (l : Ledger) (id : String) : Option Node :=
  (l.table.find? (·.1 == id)).map Prod.snd

def put (id : String) (n : Node) : List (String × Node) → List (String × Node)
  | [] => [(id, n)]
  | entry :: rest => if entry.1 = id then (id, n) :: rest else entry :: put id n rest

def merge (l : Ledger) (n : FunctionNode) (tags : List Tag) (depth : Int) : Ledger :=
  let known := ((l.get? n.id).map Node.tags).getD {}
  { l with table := put n.id (.ofFunction n (tags.foldl Tags.add known) depth) l.table }

def addEdge (l : Ledger) (e : Edge) : Ledger × Bool :=
  if e.source = e.target ∨ e.source ∉ l.keys ∨ e.target ∉ l.keys then (l, false)
  else if e.pair ∈ l.pairs then (l, false)
  else ({ l with edges := l.edges ++ [e], pairs := insert e.pair l.pairs }, true)

def change (l : Ledger) : Change → Ledger
  | .merge n tags depth => l.merge n tags depth
  | .link e => (l.addEdge e).1

def ofChanges (changes : List Change) : Ledger :=
  changes.foldl change {}

def ofGraph (g : Graph) : Ledger :=
  ⟨g.nodes.map fun n => (n.id, n), g.edges, g.edgePairs.toFinset⟩

@[simp] theorem keys_ofGraph (g : Graph) : (ofGraph g).keys = g.ids := by
  simp [keys, ofGraph, ids]

@[simp] theorem mem_pairs_ofGraph {g : Graph} {p : String × String} :
    p ∈ (ofGraph g).pairs ↔ p ∈ g.edgePairs :=
  List.mem_toFinset

@[simp] theorem get?_ofGraph (g : Graph) (id : String) : (ofGraph g).get? id = g.node? id := by
  rw [get?, ofGraph, List.find?_map, Option.map_map, node?]
  exact Option.map_id'

theorem put_map (n : Node) (nodes : List Node) :
    put n.id { n with tags := (((nodes.find? (·.id == n.id)).map Node.tags).getD {}).union n.tags }
      (nodes.map fun m => (m.id, m)) = (upsert n nodes).map fun m => (m.id, m) := by
  induction nodes with
  | nil => simp [put, upsert, Tags.union]
  | cons m ms ih =>
    by_cases h : m.id = n.id
    · simp [put, upsert, h]
    · rw [List.find?_cons_of_neg (by simpa using h), List.map_cons, put, if_neg h, ih, upsert,
        if_neg h, List.map_cons]

theorem merge_ofGraph (g : Graph) (n : FunctionNode) (tags : List Tag) (depth : Int) :
    (ofGraph g).merge n tags depth = ofGraph (g.merge n (.ofList tags) depth) := by
  rw [merge, get?_ofGraph, Tags.foldl_add]
  simp only [ofGraph, Graph.merge, Ledger.mk.injEq, true_and]
  exact ⟨put_map (.ofFunction n (.ofList tags) depth) g.nodes, rfl⟩

theorem addEdge_ofGraph (g : Graph) (e : Edge) :
    (ofGraph g).addEdge e = (ofGraph (g.addEdge e), g.accepts e) := by
  by_cases haccepts : g.accepts e = true
  · obtain ⟨⟨hne, hsource, htarget⟩, hpair⟩ := accepts_iff.mp haccepts
    have hpairs : insert e.pair g.edgePairs.toFinset =
        ((g.edges ++ [e]).map Edge.pair).toFinset := by
      rw [List.map_append, List.toFinset_append, Finset.union_comm]
      exact Finset.insert_eq _ _
    rw [addEdge, if_neg (by simp [hne, hsource, htarget]), if_neg (by simp [hpair]),
      Graph.addEdge, if_pos haccepts, haccepts]
    exact congrArg (fun pairs => (Ledger.mk _ _ pairs, true)) hpairs
  · rw [Graph.addEdge, if_neg haccepts, Bool.eq_false_of_not_eq_true haccepts, addEdge]
    split_ifs with hrefused hpair
    · rfl
    · rfl
    · simp only [keys_ofGraph, mem_pairs_ofGraph, not_or, not_not] at hrefused hpair
      exact absurd (accepts_iff.mpr ⟨hrefused, hpair⟩) haccepts

theorem ofChanges_eq (changes : List Change) :
    ofChanges changes = ofGraph (Graph.ofChanges changes) := by
  induction changes using List.reverseRecOn with
  | nil => rfl
  | append_singleton changes c ih =>
    -- The last change is made to two ledgers that are the same so far.
    rw [Graph.ofChanges_concat, ofChanges, List.foldl_append, ← ofChanges, ih]
    cases c with
    | merge n tags depth => exact merge_ofGraph _ n tags depth
    | link e => exact congrArg Prod.fst (addEdge_ofGraph _ e)

structure Records (l : Ledger) (changes : List Change) : Prop where
  keys_eq : ∀ entry ∈ l.table, entry.1 = entry.2.id
  nodup_keys : l.keys.Nodup
  joins : ∀ e ∈ l.edges, e.source ≠ e.target ∧ e.source ∈ l.keys ∧ e.target ∈ l.keys
  nodup_pairs : (l.edges.map Edge.pair).Nodup
  pairs_eq : l.pairs = (l.edges.map Edge.pair).toFinset
  /-- The nodes are those that were merged. -/
  merged : ∀ id, id ∈ l.keys ↔ ∃ c ∈ changes, c.IsMergeOf id
  /-- The tags of a node are those of all its merges. -/
  tags : ∀ id n, l.get? id = some n → ∀ tag, n.tags.has tag = true ↔ ∃ c ∈ changes, c.Brings id tag
  /-- All else about a node is what its last merge says. -/
  latest : ∀ before n tags depth after, changes = before ++ .merge n tags depth :: after →
    (∀ c ∈ after, ¬c.IsMergeOf n.id) →
      ∃ node, l.get? n.id = some node ∧ node.Describes n ∧ node.depth = depth

theorem tagsAt_of_get? {g : Graph} {id : String} {n : Node} (h : (ofGraph g).get? id = some n) :
    g.tagsAt id = n.tags := by
  rw [get?_ofGraph] at h
  rw [tagsAt, h]
  rfl

theorem mem_keys_iff {l : Ledger} {id : String} : id ∈ l.keys ↔ ∃ n, l.get? id = some n := by
  rw [← Option.isSome_iff_exists, get?, Option.isSome_map, List.find?_isSome, keys, List.mem_map]
  simp

theorem records_ofChanges (changes : List Change) : (ofChanges changes).Records changes := by
  rw [ofChanges_eq]
  have hformed := wellFormed_ofChanges changes
  exact {
    keys_eq := fun entry hentry => by
      obtain ⟨n, -, rfl⟩ := List.mem_map.mp hentry
      rfl
    nodup_keys := (keys_ofGraph _).symm ▸ hformed.nodup_ids
    joins := fun e he => (keys_ofGraph _).symm ▸ hformed.joins e he
    nodup_pairs := hformed.nodup_pairs
    pairs_eq := rfl
    merged := fun id => (keys_ofGraph _).symm ▸ mem_ids_ofChanges
    tags := fun id n hn tag => by rw [← tagsAt_of_get? hn, has_tagsAt_ofChanges]
    latest := fun before n tags depth after hchanges hlast => by
      rw [get?_ofGraph, hchanges]
      exact node?_of_last_merge before after n tags depth hlast }

structure Grows (l l' : Ledger) : Prop where
  keys : l.keys <+: l'.keys
  edges : l.edges <+: l'.edges
  pairs : l.pairs ⊆ l'.pairs
  tags : ∀ id n, l.get? id = some n →
    ∃ n', l'.get? id = some n' ∧ ∀ tag, n.tags.has tag = true → n'.tags.has tag = true

theorem grows_ofGraph {g g' : Graph} (h : g.Grows g') : (ofGraph g).Grows (ofGraph g') where
  keys := by simpa using h.ids
  edges := h.edges
  pairs := fun p hp => by
    rw [mem_pairs_ofGraph] at hp ⊢
    exact (h.edges.map Edge.pair).mem hp
  tags := fun id n hn => by
    have hkey : id ∈ (ofGraph g').keys := by
      rw [keys_ofGraph]
      exact h.ids.mem (keys_ofGraph g ▸ mem_keys_iff.mpr ⟨n, hn⟩)
    obtain ⟨n', hn'⟩ := mem_keys_iff.mp hkey
    refine ⟨n', hn', fun tag htag => ?_⟩
    rw [← tagsAt_of_get? hn] at htag
    rw [← tagsAt_of_get? hn']
    exact h.tags id tag htag

theorem addEdge_cases (l : Ledger) (e : Edge) :
    (¬(e.source ≠ e.target ∧ e.source ∈ l.keys ∧ e.target ∈ l.keys ∧ e.pair ∉ l.pairs) ∧
      l.addEdge e = (l, false)) ∨
    ((e.source ≠ e.target ∧ e.source ∈ l.keys ∧ e.target ∈ l.keys ∧ e.pair ∉ l.pairs) ∧
      l.addEdge e =
        ({ l with edges := l.edges ++ [e], pairs := insert e.pair l.pairs }, true)) := by
  unfold addEdge
  split_ifs with hends hpair
  · exact .inl ⟨by tauto, rfl⟩
  · exact .inl ⟨by tauto, rfl⟩
  · exact .inr ⟨by tauto, rfl⟩

structure Adds (l : Ledger) (e : Edge) : Prop where
  added : (l.addEdge e).2 = true ↔ (l.addEdge e).1.edges = l.edges ++ [e]
  accepted : (l.addEdge e).2 = true ↔
    e.source ≠ e.target ∧ e.source ∈ l.keys ∧ e.target ∈ l.keys ∧ e.pair ∉ l.pairs
  kept : (l.addEdge e).1.table = l.table
  unchanged : (l.addEdge e).2 = false → (l.addEdge e).1 = l

theorem adds (l : Ledger) (e : Edge) : l.Adds e := by
  rcases addEdge_cases l e with ⟨hends, hrun⟩ | ⟨hends, hrun⟩
  · exact {
      added := by simp [hrun]
      accepted := by simpa [hrun] using hends
      kept := by rw [hrun]
      unchanged := fun _ => by rw [hrun] }
  · exact {
      added := by simp [hrun]
      accepted := by simpa [hrun] using hends
      kept := by rw [hrun]
      unchanged := by simp [hrun] }

/-- Whatever is merged and whatever edges are tried, in whatever order: the ledger is in step with
itself and with what was merged, nothing that it holds is lost later, and an edge is said to be added
exactly if it is. It is the ledger of the graph that the same changes make. -/
theorem ledger_of_changes (changes : List Change) :
    ofChanges changes = ofGraph (Graph.ofChanges changes) ∧
    (ofChanges changes).Records changes ∧
    (∀ later, (ofChanges changes).Grows (ofChanges (changes ++ later))) ∧
    ∀ e, (ofChanges changes).Adds e ∧
      ((ofChanges changes).addEdge e).2 = (Graph.ofChanges changes).accepts e := by
  refine ⟨ofChanges_eq changes, records_ofChanges changes, fun later => ?_, fun e => ⟨adds _ e, ?_⟩⟩
  · rw [ofChanges_eq, ofChanges_eq, Graph.ofChanges_append]
    exact grows_ofGraph (grows_foldl_change _ later)
  · rw [ofChanges_eq, addEdge_ofGraph]

end Ledger
end Graph
end CallAtlas
