import CallAtlas.Graph.Assembly
import CallAtlas.Proofs.Keys
import Mathlib.Data.List.Basic
import Mathlib.Data.List.Perm.Subperm

/-! Pools and selections as collections: what may be in them, how often, and how much. None of it
depends on how the rows rank. -/
namespace CallAtlas.Graph

theorem ids_keepShallowest (ms : List TraversalNode) (n : TraversalNode) :
    (keepShallowest ms n).map (·.id) = Keys.insert n.id (ms.map (·.id)) := by
  refine Keys.map_key_eq_insert (f := (keepShallowest · n)) rfl (fun m ms => ?_) ms
  by_cases h : m.id = n.id
  · have hid : (if n.depth < m.depth then n else m).id = n.id := by
      split
      · rfl
      · exact h
    simp [keepShallowest, h, hid]
  · simp [keepShallowest, h]

theorem mem_of_mem_keepShallowest {ms : List TraversalNode} {n x : TraversalNode}
    (h : x ∈ keepShallowest ms n) : x ∈ ms ∨ x = n := by
  induction ms with
  | nil => exact Or.inr (List.mem_singleton.mp h)
  | cons m ms ih =>
    unfold keepShallowest at h
    split at h
    · rcases List.mem_cons.mp h with rfl | h
      · split
        · exact Or.inr rfl
        · exact Or.inl List.mem_cons_self
      · exact Or.inl (List.mem_cons_of_mem _ h)
    · rcases List.mem_cons.mp h with rfl | h
      · exact Or.inl List.mem_cons_self
      · exact (ih h).imp_left (List.mem_cons_of_mem _)

def shallowest (rows : List TraversalNode) : List TraversalNode :=
  rows.foldl keepShallowest []

private theorem foldl_keepShallowest (rows ms : List TraversalNode) (h : (ms.map (·.id)).Nodup) :
    ((rows.foldl keepShallowest ms).map (·.id)).Nodup ∧
      ∀ x ∈ rows.foldl keepShallowest ms, x ∈ ms ∨ x ∈ rows := by
  induction rows generalizing ms with
  | nil => exact ⟨h, fun x hx => Or.inl hx⟩
  | cons n ns ih =>
    have hnodup : ((keepShallowest ms n).map (·.id)).Nodup := by
      rw [ids_keepShallowest]
      exact Keys.nodup_insert h n.id
    refine ⟨(ih _ hnodup).1, fun x hx => ?_⟩
    rcases (ih _ hnodup).2 x hx with hx | hx
    · rcases mem_of_mem_keepShallowest hx with hx | rfl
      · exact Or.inl hx
      · exact Or.inr List.mem_cons_self
    · exact Or.inr (List.mem_cons_of_mem _ hx)

theorem nodup_ids_shallowest (rows : List TraversalNode) : ((shallowest rows).map (·.id)).Nodup :=
  (foldl_keepShallowest rows [] List.nodup_nil).1

theorem mem_of_mem_shallowest {rows : List TraversalNode} {x : TraversalNode}
    (h : x ∈ shallowest rows) : x ∈ rows :=
  ((foldl_keepShallowest rows [] List.nodup_nil).2 x h).resolve_left List.not_mem_nil

theorem pool_eq (side : Direction) (excluded : List String) (rows : List TraversalNode) :
    pool side excluded rows =
      (shallowest (rows.filter fun n => !excluded.contains n.id)).map
        fun n => { n with direction := some side } :=
  rfl

theorem nodup_ids_pool (side : Direction) (excluded : List String) (rows : List TraversalNode) :
    ((pool side excluded rows).map (·.id)).Nodup := by
  rw [pool_eq, List.map_map]
  exact nodup_ids_shallowest _

theorem direction_of_mem_pool {side : Direction} {excluded : List String}
    {rows : List TraversalNode} {n : TraversalNode} (h : n ∈ pool side excluded rows) :
    n.direction = some side := by
  rw [pool_eq, List.mem_map] at h
  obtain ⟨_, _, rfl⟩ := h
  rfl

theorem not_mem_excluded_of_mem_pool {side : Direction} {excluded : List String}
    {rows : List TraversalNode} {n : TraversalNode} (h : n ∈ pool side excluded rows) :
    n.id ∉ excluded := by
  rw [pool_eq, List.mem_map] at h
  obtain ⟨m, hm, rfl⟩ := h
  have hkept := (List.mem_filter.mp (mem_of_mem_shallowest hm)).2
  simpa using hkept

theorem Split.ofBudget_of_le {budget direct : Int} (h : budget - 1 - direct ≤ 1) :
    Split.ofBudget budget direct = ⟨0, 0, 0⟩ :=
  if_pos h

theorem Split.ofBudget_of_lt {budget direct : Int} (h : 1 < budget - 1 - direct) :
    Split.ofBudget budget direct =
      ⟨budget - 1 - direct, (budget - 1 - direct) / 2,
        budget - 1 - direct - (budget - 1 - direct) / 2⟩ :=
  if_neg (by omega)

theorem cutAt_of_nonneg {budget : Int} {length : Nat} (h : 0 ≤ budget) :
    cutAt budget length = budget.toNat :=
  if_neg (by omega)

section Select

variable (mark : String) (focal : FunctionNode) {callers callees : List TraversalNode}

theorem rank_perm (nodes : List TraversalNode) : List.Perm (rank mark focal nodes) nodes :=
  List.mergeSort_perm _ _

theorem length_rank (nodes : List TraversalNode) :
    (rank mark focal nodes).length = nodes.length :=
  (rank_perm mark focal nodes).length_eq

theorem size_select (budget direct : Int) :
    (select mark focal (.ofBudget budget direct) callers callees).size =
      if budget - 1 - direct ≤ 1 then 0
      else min (budget - 1 - direct).toNat (callers.length + callees.length) := by
  split
  · rename_i hroom
    rw [Split.ofBudget_of_le hroom]
    rfl
  · rename_i hroom
    have hparts (nodes : List TraversalNode) :=
      (List.length_eq_length_filter_add (l := nodes) isCaller).symm
    rw [Split.ofBudget_of_lt (by omega), select, if_neg (by simp only; omega)]
    simp only [Selection.size, List.length_append]
    rw [Nat.add_add_add_comm, hparts]
    simp only [List.length_take, List.length_drop, List.length_append, length_rank]
    rw [cutAt_of_nonneg (by omega), cutAt_of_nonneg (by omega)]
    omega

variable {mark focal}

private theorem filter_subperm {test : TraversalNode → Bool} {xs ys chosen : List TraversalNode}
    (hxs : ∀ n ∈ xs, test n = true) (hys : ∀ n ∈ ys, test n = false)
    (h : chosen.Subperm (xs ++ ys)) : (chosen.filter test).Subperm xs := by
  have hnone : ys.filter test = [] :=
    List.filter_eq_nil_iff.mpr fun n hn => by simp [hys n hn]
  have hfilter := h.filter test
  rwa [List.filter_append, List.filter_eq_self.mpr hxs, hnone, List.append_nil] at hfilter

private theorem leftover_subperm {xs ys : List TraversalNode}
    (hxs : ∀ n ∈ xs, n.direction = some .caller) (hys : ∀ n ∈ ys, n.direction = some .callee)
    (k : Nat) :
    (((rank mark focal (xs ++ ys)).take k).filter isCaller).Subperm xs ∧
      (((rank mark focal (xs ++ ys)).take k).filter (!isCaller ·)).Subperm ys := by
  have hsub : ((rank mark focal (xs ++ ys)).take k).Subperm (xs ++ ys) :=
    (List.take_sublist _ _).subperm.trans (rank_perm mark focal _).subperm
  have hleft (n) (hn : n ∈ xs) : isCaller n = true := by simp [isCaller, hxs n hn]
  have hright (n) (hn : n ∈ ys) : isCaller n = false := by simp [isCaller, hys n hn]
  constructor
  · exact filter_subperm hleft hright hsub
  · have hswapped : ((rank mark focal (xs ++ ys)).take k).Subperm (ys ++ xs) :=
      hsub.trans List.perm_append_comm.subperm
    apply filter_subperm _ _ hswapped
    · intro n hn
      simp [hright n hn]
    · intro n hn
      simp [hleft n hn]

private theorem direction_of_mem_drop {nodes : List TraversalNode} {d : Option Direction}
    (h : ∀ n ∈ nodes, n.direction = d) (i : Nat) :
    ∀ n ∈ (rank mark focal nodes).drop i, n.direction = d :=
  fun n hn => h n ((rank_perm mark focal nodes).mem_iff.mp (List.mem_of_mem_drop hn))

variable (hcallers : ∀ n ∈ callers, n.direction = some .caller)
  (hcallees : ∀ n ∈ callees, n.direction = some .callee) (split : Split)
include hcallers hcallees

theorem callers_subperm : (select mark focal split callers callees).callers.Subperm callers := by
  unfold select
  split
  · exact List.nil_subperm
  · refine ((List.subperm_append_left _).mpr (leftover_subperm
      (direction_of_mem_drop hcallers _) (direction_of_mem_drop hcallees _) _).1).trans ?_
    rw [List.take_append_drop]
    exact (rank_perm mark focal callers).subperm

theorem callees_subperm : (select mark focal split callers callees).callees.Subperm callees := by
  unfold select
  split
  · exact List.nil_subperm
  · refine ((List.subperm_append_left _).mpr (leftover_subperm
      (direction_of_mem_drop hcallers _) (direction_of_mem_drop hcallees _) _).2).trans ?_
    rw [List.take_append_drop]
    exact (rank_perm mark focal callees).subperm

end Select

end CallAtlas.Graph
