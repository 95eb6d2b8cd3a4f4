import CallAtlas.Proofs.Graph.Ranking

/-! Two sides that share the room of a budget. Each takes its part, and what one of them has no rows
for goes to the other one, as water finds its level. -/
namespace CallAtlas.Graph

theorem Split.parts_ofBudget (budget direct : Int) :
    let split := Split.ofBudget budget direct
    0 ≤ split.callers ∧ 0 ≤ split.callees ∧ split.remaining = split.callers + split.callees := by
  by_cases hroom : budget - 1 - direct ≤ 1
  · rw [Split.ofBudget_of_le hroom]
    decide
  · rw [Split.ofBudget_of_lt (Int.not_le.mp hroom)]
    dsimp only
    omega

structure Split.Fills (split : Split) (p q k m : Nat) : Prop where
  callers : (k : Int) = min (p : Int) (max split.callers (split.remaining - q))
  callees : (m : Int) = min (q : Int) (max split.callees (split.remaining - p))
  size : (k + m : Int) = min split.remaining (p + q)
  least_callers : min (p : Int) split.callers ≤ k
  least_callees : min (q : Int) split.callees ≤ m

theorem Split.exists_fills (budget direct : Int) (p q : Nat) :
    ∃ k m : Nat, (Split.ofBudget budget direct).Fills p q k m := by
  obtain ⟨hcallers, hcallees, hsum⟩ := Split.parts_ofBudget budget direct
  generalize Split.ofBudget budget direct = split at hcallers hcallees hsum ⊢
  obtain ⟨k, hk⟩ := Int.eq_ofNat_of_zero_le
    (a := min (p : Int) (max split.callers (split.remaining - q))) (by omega)
  obtain ⟨m, hm⟩ := Int.eq_ofNat_of_zero_le
    (a := min (q : Int) (max split.callees (split.remaining - p))) (by omega)
  exact ⟨k, m, ⟨hk.symm, hm.symm, by omega, by omega, by omega⟩⟩

def Outranks (mark : String) (focal : FunctionNode) (a b : TraversalNode) : Prop :=
  rankKey mark focal a < rankKey mark focal b

section Fill

variable {mark : String} {focal : FunctionNode} {nodes callers callees : List TraversalNode}

theorem not_outranks_of_mem_take (hnames : ∀ n ∈ nodes, HasTextName n) (k : Nat) :
    ∀ left ∈ (rank mark focal nodes).drop k, ∀ taken ∈ (rank mark focal nodes).take k,
      ¬Outranks mark focal left taken := by
  intro left hleft taken htaken
  have hranked : Ranked mark focal (rank mark focal nodes) := ranked_rank hnames
  rw [Ranked, ← List.take_append_drop k (rank mark focal nodes), List.pairwise_append] at hranked
  exact not_lt.mpr (hranked.2.2 taken htaken left hleft)

theorem select_eq_take_of_fills (hcallers : LieOn .caller callers)
    (hcallees : LieOn .callee callees) {budget direct : Int} {k m : Nat}
    (h : (Split.ofBudget budget direct).Fills callers.length callees.length k m) :
    select mark focal (Split.ofBudget budget direct) callers callees =
      ⟨(rank mark focal callers).take k, (rank mark focal callees).take m⟩ := by
  have hk := h.callers
  have hm := h.callees
  rw [select_eq_take hcallers hcallees, Selection.mk.injEq, List.take_eq_take_iff,
    List.take_eq_take_iff, length_rank, length_rank]
  omega

end Fill

/-- The selection is the head of either side's ranking. How many rows it takes follows from the sizes
of the sides and the split alone, and it leaves no row that outranks a selected one of its side. -/
theorem select_fills_room (options : Options) (focal : FunctionNode) (budget direct : Int)
    (callers callees : List TraversalNode) (hmark : options.markFault = none)
    (hcallers : LieOn .caller callers) (hcallees : LieOn .callee callees) :
    ∃ xs ys k m, rank? options focal callers = .ok xs ∧ rank? options focal callees = .ok ys ∧
      xs.Perm callers ∧ ys.Perm callees ∧
      (Split.ofBudget budget direct).Fills callers.length callees.length k m ∧
      select? options focal (.ofBudget budget direct) callers callees =
        .ok ⟨xs.take k, ys.take m⟩ ∧
      (∀ left ∈ xs.drop k, ∀ taken ∈ xs.take k,
        ¬Outranks options.externalMark focal left taken) ∧
      ∀ left ∈ ys.drop m, ∀ taken ∈ ys.take m,
        ¬Outranks options.externalMark focal left taken := by
  obtain ⟨k, m, hfills⟩ := Split.exists_fills budget direct callers.length callees.length
  refine ⟨_, _, k, m, rank?_eq_ok hmark hcallers.names, rank?_eq_ok hmark hcallees.names,
    rank_perm _ _ _, rank_perm _ _ _, hfills, ?_,
    not_outranks_of_mem_take hcallers.names k, not_outranks_of_mem_take hcallees.names m⟩
  rw [select?_eq_ok hmark _ hcallers.names hcallees.names,
    select_eq_take_of_fills hcallers hcallees hfills]

def rowsOn (side : Direction) (ids : List String) : List TraversalNode :=
  ids.map fun id => { id, name := .text id, direction := some side }

theorem lieOn_rowsOn (side : Direction) (ids : List String) : LieOn side (rowsOn side ids) := by
  intro n hn
  obtain ⟨id, -, rfl⟩ := List.mem_map.mp hn
  exact ⟨rfl, id, rfl⟩

/-- Four places for five callers and one callee: the callee takes one, the callers the others. -/
theorem select_fills_room_of_one_callee :
    ∃ xs ys, rank? {} { id := "f" } (rowsOn .caller ["a", "b", "c", "d", "e"]) = .ok xs ∧
      rank? {} { id := "f" } (rowsOn .callee ["g"]) = .ok ys ∧
      select? {} { id := "f" } (.ofBudget 5 0) (rowsOn .caller ["a", "b", "c", "d", "e"])
        (rowsOn .callee ["g"]) = .ok ⟨xs.take 3, ys.take 1⟩ := by
  obtain ⟨xs, ys, k, m, hxs, hys, -, -, hfills, hselect, -, -⟩ :=
    select_fills_room {} { id := "f" } 5 0 (rowsOn .caller ["a", "b", "c", "d", "e"])
      (rowsOn .callee ["g"]) rfl (lieOn_rowsOn _ _) (lieOn_rowsOn _ _)
  have hk : (k : Int) = 3 := hfills.callers.trans (by decide)
  have hm : (m : Int) = 1 := hfills.callees.trans (by decide)
  obtain rfl : k = 3 := by omega
  obtain rfl : m = 1 := by omega
  exact ⟨xs, ys, hxs, hys, hselect⟩

end CallAtlas.Graph
