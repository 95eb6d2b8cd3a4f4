import CallAtlas.Proofs.Graph.Nodes
import CallAtlas.Proofs.Graph.Selection

/-! Who is in an assembled graph: the focal function, the neighbours kept, and what was selected on
either side. The three kinds have no id in common. -/
namespace CallAtlas

theorem Direction.exists_iff {p : Direction → Prop} : (∃ side, p side) ↔ p .caller ∨ p .callee := by
  constructor
  · rintro ⟨side, h⟩
    cases side with
    | caller => exact Or.inl h
    | callee => exact Or.inr h
  · rintro (h | h)
    · exact ⟨.caller, h⟩
    · exact ⟨.callee, h⟩

namespace Graph

def Selection.side (s : Selection) : Direction → List TraversalNode
  | .caller => s.callers
  | .callee => s.callees

@[simp] theorem Selection.side_caller (s : Selection) : s.side .caller = s.callers := rfl
@[simp] theorem Selection.side_callee (s : Selection) : s.side .callee = s.callees := rfl

theorem has_directTags {n : TraversalNode} {tag : Tag} :
    (directTags n).has tag = true ↔
      tag = .direct ∨ ∃ side, n.direction = some side ∧ tag = .ofDirection side := by
  cases h : n.direction <;> simp [directTags, h]

theorem has_transitiveTags {side : Direction} {tag : Tag} :
    (transitiveTags side).has tag = true ↔ tag = .transitive ∨ tag = .ofDirection side := by
  simp [transitiveTags]

namespace Material

variable {m : Material} {options : Options} {budget : Int} {side : Direction}

theorem mem_directIds {id : String} :
    id ∈ m.directIds options ↔ ∃ n ∈ m.direct options, n.id = id := by
  simp [directIds]

theorem focal_not_mem_directIds : m.focal.id ∉ m.directIds options := by
  rw [mem_directIds]
  rintro ⟨n, hn, hid⟩
  have hne := (List.mem_filter.mp hn).2
  simp [hid] at hne

theorem selection_subperm (m : Material) (options : Options) (budget : Int) (side : Direction) :
    ((m.selection options budget).side side).Subperm (m.pool options side) := by
  have hcallers (n) (hn : n ∈ m.pool options .caller) := direction_of_mem_pool hn
  have hcallees (n) (hn : n ∈ m.pool options .callee) := direction_of_mem_pool hn
  cases side with
  | caller => exact callers_subperm hcallers hcallees _
  | callee => exact callees_subperm hcallers hcallees _

theorem mem_selection_of_fits (hroom : 1 < budget - 1 - (m.directIds options).length)
    (hfits : (m.pool options .caller).length + (m.pool options .callee).length ≤
      budget - 1 - (m.directIds options).length)
    {n : TraversalNode} (hn : n ∈ m.pool options side) :
    n ∈ (m.selection options budget).side side := by
  have hsize : (m.selection options budget).size = _ := size_select _ _ _ _
  have hcallers := (m.selection_subperm options budget .caller).length_le
  have hcallees := (m.selection_subperm options budget .callee).length_le
  rw [if_neg (by omega), Selection.size] at hsize
  rw [Selection.side_caller] at hcallers
  rw [Selection.side_callee] at hcallees
  have hle : (m.pool options side).length ≤ ((m.selection options budget).side side).length := by
    cases side with
    | caller =>
      rw [Selection.side_caller]
      omega
    | callee =>
      rw [Selection.side_callee]
      omega
  exact ((m.selection_subperm options budget side).perm_of_length_le hle).mem_iff.mpr hn

theorem nodup_ids_selection (m : Material) (options : Options) (budget : Int)
    (side : Direction) : (((m.selection options budget).side side).map (·.id)).Nodup := by
  obtain ⟨nodes, hperm, hsub⟩ := m.selection_subperm options budget side
  have hpool : ((m.pool options side).map (·.id)).Nodup := nodup_ids_pool _ _ _
  exact ((hperm.map _).nodup_iff).mp (hpool.sublist (hsub.map _))

theorem not_mem_excluded_of_selected {n : TraversalNode}
    (hn : n ∈ (m.selection options budget).side side) : n.id ∉ m.excluded options :=
  not_mem_excluded_of_mem_pool ((m.selection_subperm options budget side).subset hn)

theorem id_ne_focal_of_selected {n : TraversalNode}
    (hn : n ∈ (m.selection options budget).side side) : n.id ≠ m.focal.id := by
  rintro h
  exact not_mem_excluded_of_selected hn (h ▸ List.mem_cons_self)

theorem id_not_direct_of_selected {n : TraversalNode}
    (hn : n ∈ (m.selection options budget).side side) : n.id ∉ m.directIds options :=
  fun h => not_mem_excluded_of_selected hn (List.mem_cons_of_mem _ h)

end Material

section NodesOf

variable {focal : FunctionNode} {direct : List TraversalNode} {chosen : Selection} {id : String}

@[simp] theorem mem_ids_nodesOf :
    id ∈ (nodesOf focal direct chosen).ids ↔
      id ∈ direct.map (·.id) ∨ (∃ side, id ∈ (chosen.side side).map (·.id)) ∨ id = focal.id := by
  rw [Direction.exists_iff, nodesOf, mergeChosen_eq, mergeChosen_eq, mergeDirect_eq]
  simp only [mem_ids_merge, mem_ids_mergeAll]
  simp only [empty, ids, List.map_nil, List.not_mem_nil, false_or, or_assoc, Selection.side_caller,
    Selection.side_callee]

theorem nodup_ids_nodesOf (focal : FunctionNode) (direct : List TraversalNode)
    (chosen : Selection) : (nodesOf focal direct chosen).ids.Nodup := by
  rw [nodesOf, mergeChosen_eq, mergeChosen_eq, mergeDirect_eq]
  apply nodup_ids_merge
  apply nodup_ids_mergeAll
  apply nodup_ids_mergeAll
  apply nodup_ids_mergeAll
  exact List.nodup_nil

theorem edges_nodesOf (focal : FunctionNode) (direct : List TraversalNode)
    (chosen : Selection) : (nodesOf focal direct chosen).edges = [] := by
  rw [nodesOf, mergeChosen_eq, mergeChosen_eq, mergeDirect_eq, merge]
  simp only [edges_mergeAll]
  rfl

theorem has_tagsAt_nodesOf (tag : Tag) :
    ((nodesOf focal direct chosen).tagsAt id).has tag = true ↔
      (∃ n ∈ direct, id = n.id ∧ (directTags n).has tag = true) ∨
      (∃ side, ∃ n ∈ chosen.side side, id = n.id ∧ (transitiveTags side).has tag = true) ∨
      (id = focal.id ∧ tag = .focus) := by
  have hempty : (empty.tagsAt id).has tag = false := Tags.has_empty tag
  rw [Direction.exists_iff, nodesOf, mergeChosen_eq, mergeChosen_eq, mergeDirect_eq]
  rw [has_tagsAt_merge, has_tagsAt_mergeAll, has_tagsAt_mergeAll, has_tagsAt_mergeAll, hempty]
  simp only [Bool.or_eq_true, Bool.and_eq_true, List.any_eq_true, decide_eq_true_eq,
    Bool.false_or, Tags.has_ofList, List.contains_iff_mem, List.mem_singleton, or_assoc,
    Selection.side_caller, Selection.side_callee]

end NodesOf

section Assemble

variable {options : Options} {budget : Int} {m : Material}

theorem assemble_eq (hid : m.focal.id ≠ "") :
    assemble options budget m =
      (linksOf m.focal.id (m.direct options) (m.selection options budget)).foldl addEdge
        (nodesOf m.focal (m.direct options) (m.selection options budget)) := by
  rw [assemble, if_neg (by simpa using hid)]

@[simp] theorem nodes_assemble (hid : m.focal.id ≠ "") :
    (assemble options budget m).nodes =
      (nodesOf m.focal (m.direct options) (m.selection options budget)).nodes := by
  rw [assemble_eq hid, nodes_foldl_addEdge]

theorem nodup_ids_assemble (hid : m.focal.id ≠ "") : (assemble options budget m).ids.Nodup := by
  rw [ids, nodes_assemble hid]
  exact nodup_ids_nodesOf _ _ _

theorem mem_ids_assemble (hid : m.focal.id ≠ "") {id : String} :
    id ∈ (assemble options budget m).ids ↔
      id ∈ (m.direct options).map (·.id) ∨
      (∃ side, id ∈ ((m.selection options budget).side side).map (·.id)) ∨ id = m.focal.id := by
  rw [ids, nodes_assemble hid, ← ids, mem_ids_nodesOf]

theorem has_tags_assemble (hid : m.focal.id ≠ "") {n : Node}
    (hn : n ∈ (assemble options budget m).nodes) (tag : Tag) :
    n.tags.has tag = true ↔
      (∃ d ∈ m.direct options, n.id = d.id ∧ (directTags d).has tag = true) ∨
      (∃ side, ∃ x ∈ (m.selection options budget).side side,
        n.id = x.id ∧ (transitiveTags side).has tag = true) ∨
      (n.id = m.focal.id ∧ tag = .focus) := by
  have htags := tagsAt_of_mem (nodup_ids_assemble hid) hn
  rw [tagsAt, node?, nodes_assemble hid] at htags
  rw [← htags]
  exact has_tagsAt_nodesOf tag

end Assemble

end Graph
end CallAtlas
