import CallAtlas.Proofs.Graph.Typed
import Mathlib.Data.Prod.Lex
import Mathlib.Data.String.Basic

/-! Rows whose names are texts rank in a linear order. So what is left of a ranking is ranked
already, and a selection takes the first rows of either side's ranking. -/
namespace CallAtlas.Graph

section Rank

variable (mark : String) (focal : FunctionNode)

def rankKey (n : TraversalNode) : Int ×ₗ String ×ₗ String :=
  toLex (score mark focal n, toLex (n.name.text?.getD "", n.id))

variable {mark focal}

theorem ranksBefore_eq {a b : TraversalNode} (ha : HasTextName a) (hb : HasTextName b) :
    ranksBefore mark focal a b = decide (rankKey mark focal a ≤ rankKey mark focal b) := by
  obtain ⟨s, hs⟩ := ha
  obtain ⟨t, ht⟩ := hb
  rw [Bool.eq_iff_iff]
  simp [ranksBefore, rankKey, hs, ht, Json.before, Json.before?, Json.same, Json.text?,
    Prod.Lex.toLex_le_toLex, pure, Except.pure]

def Ranked (mark : String) (focal : FunctionNode) (nodes : List TraversalNode) : Prop :=
  nodes.Pairwise fun a b => rankKey mark focal a ≤ rankKey mark focal b

variable {nodes : List TraversalNode} (hnames : ∀ n ∈ nodes, HasTextName n)
include hnames

theorem rank_eq_mergeSort :
    rank mark focal nodes =
      nodes.mergeSort fun a b => decide (rankKey mark focal a ≤ rankKey mark focal b) := by
  have h := List.map_mergeSort (f := id) (l := nodes) (r := ranksBefore mark focal)
    (s := fun a b => decide (rankKey mark focal a ≤ rankKey mark focal b))
    fun a ha b hb => ranksBefore_eq (hnames a ha) (hnames b hb)
  simpa [rank] using h

theorem ranked_rank : Ranked mark focal (rank mark focal nodes) := by
  rw [rank_eq_mergeSort hnames, Ranked]
  have htrans (a b c : TraversalNode) : decide (rankKey mark focal a ≤ rankKey mark focal b) →
      decide (rankKey mark focal b ≤ rankKey mark focal c) →
      decide (rankKey mark focal a ≤ rankKey mark focal c) := by
    simpa using fun hab hbc => le_trans hab hbc
  have htotal (a b : TraversalNode) : decide (rankKey mark focal a ≤ rankKey mark focal b) ||
      decide (rankKey mark focal b ≤ rankKey mark focal a) := by
    simpa using le_total _ _
  simpa using List.pairwise_mergeSort htrans htotal nodes

theorem rank_of_ranked (h : Ranked mark focal nodes) : rank mark focal nodes = nodes := by
  rw [rank_eq_mergeSort hnames]
  exact List.mergeSort_of_pairwise (by simpa [Ranked] using h)

theorem textNames_rank : ∀ n ∈ rank mark focal nodes, HasTextName n :=
  fun n hn => hnames n ((rank_perm mark focal nodes).mem_iff.mp hn)

theorem rank_drop (i : Nat) :
    rank mark focal ((rank mark focal nodes).drop i) = (rank mark focal nodes).drop i := by
  apply rank_of_ranked
  · exact fun n hn => textNames_rank hnames n (List.mem_of_mem_drop hn)
  · exact List.Pairwise.sublist (List.drop_sublist _ _) (ranked_rank hnames)

end Rank

section Select

variable {mark : String} {focal : FunctionNode} {callers callees : List TraversalNode}

theorem filter_isCaller_of_callers {nodes : List TraversalNode}
    (h : ∀ n ∈ nodes, n.direction = some .caller) :
    nodes.filter isCaller = nodes ∧ nodes.filter (!isCaller ·) = [] := by
  constructor
  · exact List.filter_eq_self.mpr fun n hn => by simp [isCaller, h n hn]
  · exact List.filter_eq_nil_iff.mpr fun n hn => by simp [isCaller, h n hn]

theorem filter_isCaller_of_callees {nodes : List TraversalNode}
    (h : ∀ n ∈ nodes, n.direction = some .callee) :
    nodes.filter isCaller = [] ∧ nodes.filter (!isCaller ·) = nodes := by
  constructor
  · exact List.filter_eq_nil_iff.mpr fun n hn => by simp [isCaller, h n hn]
  · exact List.filter_eq_self.mpr fun n hn => by simp [isCaller, h n hn]

def LieOn (side : Direction) (nodes : List TraversalNode) : Prop :=
  ∀ n ∈ nodes, n.direction = some side ∧ HasTextName n

theorem LieOn.names {side : Direction} {nodes : List TraversalNode} (h : LieOn side nodes) :
    ∀ n ∈ nodes, HasTextName n :=
  fun n hn => (h n hn).2

theorem LieOn.direction_part {side : Direction} {nodes : List TraversalNode}
    (h : LieOn side nodes) {i k : Nat} :
    ∀ n ∈ ((rank mark focal nodes).drop i).take k, n.direction = some side :=
  fun n hn => (h n ((rank_perm mark focal nodes).mem_iff.mp
    (List.mem_of_mem_drop (List.mem_of_mem_take hn)))).1

theorem Split.exists_of_lt {budget direct : Int} (h : 1 < budget - 1 - direct) :
    ∃ i j : Nat, Split.ofBudget budget direct = ⟨i + j, i, j⟩ ∧ 1 < i + j := by
  obtain ⟨i, hi⟩ := Int.eq_ofNat_of_zero_le (a := (budget - 1 - direct) / 2) (by omega)
  obtain ⟨j, hj⟩ := Int.eq_ofNat_of_zero_le
    (a := budget - 1 - direct - (budget - 1 - direct) / 2) (by omega)
  refine ⟨i, j, ?_, by omega⟩
  rw [Split.ofBudget_of_lt h, hj, hi, Split.mk.injEq]
  omega

/-- The places that one side leaves go to the next rows of the other one. Both sides cannot have
rows left and leave places. -/
theorem take_append_leftover (hcallers : LieOn .caller callers) (hcallees : LieOn .callee callees)
    (i j : Nat) :
    let xs := rank mark focal callers
    let ys := rank mark focal callees
    let more := (rank mark focal (xs.drop i ++ ys.drop j)).take
      (i + j - (min i xs.length + min j ys.length))
    xs.take i ++ more.filter isCaller = xs.take (max i (i + j - ys.length)) ∧
      ys.take j ++ more.filter (!isCaller ·) = ys.take (max j (i + j - xs.length)) := by
  intro xs ys more
  by_cases hys : ys.length ≤ j
  · have hmore : more = (xs.drop i).take (i + j - (min i xs.length + min j ys.length)) := by
      rw [← rank_drop hcallers.names i, ← List.append_nil (xs.drop i),
        ← List.drop_eq_nil_of_le hys]
    obtain ⟨hkept, hnone⟩ := filter_isCaller_of_callers (hmore ▸ hcallers.direction_part)
    rw [hkept, hnone, hmore, ← List.take_add, List.append_nil, List.take_eq_take_iff,
      List.take_eq_take_iff]
    omega
  · by_cases hxs : xs.length ≤ i
    · have hmore : more = (ys.drop j).take (i + j - (min i xs.length + min j ys.length)) := by
        rw [← rank_drop hcallees.names j, ← List.nil_append (ys.drop j),
          ← List.drop_eq_nil_of_le hxs]
      obtain ⟨hnone, hkept⟩ := filter_isCaller_of_callees (hmore ▸ hcallees.direction_part)
      rw [hkept, hnone, hmore, ← List.take_add, List.append_nil, List.take_eq_take_iff,
        List.take_eq_take_iff]
      omega
    · have hmore : more = [] := List.take_eq_nil_iff.mpr (Or.inl (by omega))
      simp only [hmore, List.filter_nil, List.append_nil, List.take_eq_take_iff]
      omega

theorem select_eq_take (hcallers : LieOn .caller callers) (hcallees : LieOn .callee callees)
    (budget direct : Int) :
    let split := Split.ofBudget budget direct
    select mark focal split callers callees =
      ⟨(rank mark focal callers).take (max split.callers (split.remaining - callees.length)).toNat,
        (rank mark focal callees).take
          (max split.callees (split.remaining - callers.length)).toNat⟩ := by
  intro split
  by_cases hroom : budget - 1 - direct ≤ 1
  · have hsplit : split = ⟨0, 0, 0⟩ := Split.ofBudget_of_le hroom
    simp [hsplit, select]
  · obtain ⟨i, j, hsplit, hplaces⟩ := Split.exists_of_lt (Int.not_le.mp hroom)
    obtain ⟨hleft, hright⟩ := @take_append_leftover mark focal callers callees hcallers hcallees i j
    have hsplit' : split = ⟨i + j, i, j⟩ := hsplit
    have hmore (m n : Nat) : ((i : Int) + j - ↑(m + n)).toNat = i + j - (m + n) := by omega
    rw [hsplit', select, if_neg (by simp only; omega)]
    simp only [cutAt_of_nonneg (Int.natCast_nonneg _), Int.toNat_natCast, Selection.size,
      List.length_take]
    rw [hmore, hleft, hright, length_rank, length_rank]
    congr 2 <;> omega

end Select
end CallAtlas.Graph
