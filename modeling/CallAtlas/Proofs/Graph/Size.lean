import CallAtlas.Proofs.Graph.Members
import CallAtlas.Proofs.Graph.Typed
import CallAtlas.Proofs.Occurrences
import Mathlib.Data.Finset.Card
import Mathlib.Data.Finset.Dedup

namespace CallAtlas.Graph

namespace Material

def neighborIds (m : Material) (options : Options) : Finset String :=
  ((kept options.extension m.neighbors).map (·.id)).toFinset.erase m.focal.id

/-- The ids selected on either side. -/
def selectedIds (m : Material) (options : Options) (budget : Int) : Finset String :=
  ((m.selection options budget).side .caller |>.map (·.id)).toFinset ∪
    ((m.selection options budget).side .callee |>.map (·.id)).toFinset

variable {m : Material} {options : Options} {budget : Int}

theorem mem_neighborIds {id : String} :
    id ∈ m.neighborIds options ↔ id ∈ m.directIds options := by
  simp only [neighborIds, Finset.mem_erase, List.mem_toFinset, List.mem_map, mem_directIds, direct,
    List.mem_filter, bne_iff_ne]
  constructor
  · rintro ⟨hne, n, hn, rfl⟩
    exact ⟨n, ⟨hn, hne⟩, rfl⟩
  · rintro ⟨n, ⟨hn, hne⟩, rfl⟩
    exact ⟨hne, n, hn, rfl⟩

theorem card_neighborIds (m : Material) (options : Options) :
    (m.neighborIds options).card = (m.directIds options).length := by
  have hnodup : (m.directIds options).Nodup := (FirstOccurrences.eraseDups _).nodup
  rw [← List.toFinset_card_of_nodup hnodup]
  congr 1
  ext id
  rw [mem_neighborIds, List.mem_toFinset]

theorem mem_selectedIds {id : String} :
    id ∈ m.selectedIds options budget ↔
      ∃ side, ∃ n ∈ (m.selection options budget).side side, n.id = id := by
  simp [selectedIds, Direction.exists_iff]

theorem card_side (m : Material) (options : Options) (budget : Int) (side : Direction) :
    ((m.selection options budget).side side |>.map (·.id)).toFinset.card =
      ((m.selection options budget).side side).length := by
  rw [List.toFinset_card_of_nodup (m.nodup_ids_selection options budget side), List.length_map]

theorem card_selectedIds_le (m : Material) (options : Options) (budget : Int) :
    (m.selectedIds options budget).card ≤ (m.selection options budget).size := by
  refine (Finset.card_union_le _ _).trans ?_
  rw [card_side, card_side]
  rfl

theorem card_selectedIds_of_disjoint
    (h : ∀ a ∈ m.pool options .caller, ∀ b ∈ m.pool options .callee, a.id ≠ b.id) :
    (m.selectedIds options budget).card = (m.selection options budget).size := by
  rw [selectedIds, Finset.card_union_of_disjoint, card_side, card_side]
  · rfl
  · rw [Finset.disjoint_left]
    intro id hcaller hcallee
    obtain ⟨a, ha, rfl⟩ := List.mem_map.mp (List.mem_toFinset.mp hcaller)
    obtain ⟨b, hb, hab⟩ := List.mem_map.mp (List.mem_toFinset.mp hcallee)
    exact h a ((m.selection_subperm options budget .caller).subset ha)
      b ((m.selection_subperm options budget .callee).subset hb) hab.symm

theorem size_selection (m : Material) (options : Options) (budget : Int) :
    (m.selection options budget).size =
      if budget - 1 - (m.neighborIds options).card ≤ 1 then 0
      else min (budget - 1 - (m.neighborIds options).card).toNat
        ((m.pool options .caller).length + (m.pool options .callee).length) := by
  rw [card_neighborIds]
  exact size_select _ _ _ _

end Material

section Assemble

variable {m : Material} {options : Options} {budget : Int}

theorem toFinset_ids_assemble (hid : m.focal.id ≠ "") :
    (assemble options budget m).ids.toFinset =
      insert m.focal.id (m.neighborIds options ∪ m.selectedIds options budget) := by
  ext id
  rw [List.mem_toFinset, mem_ids_assemble hid]
  simp only [Finset.mem_insert, Finset.mem_union, Material.mem_neighborIds, Material.mem_directIds,
    Material.mem_selectedIds, List.mem_map]
  rw [← or_assoc, or_comm]

theorem length_nodes_assemble (hid : m.focal.id ≠ "") :
    (assemble options budget m).nodes.length =
      1 + (m.neighborIds options).card + (m.selectedIds options budget).card := by
  have hfocal : m.focal.id ∉ m.neighborIds options ∪ m.selectedIds options budget := by
    rw [Finset.mem_union, Material.mem_neighborIds, Material.mem_selectedIds]
    rintro (h | ⟨side, n, hn, h⟩)
    · exact Material.focal_not_mem_directIds h
    · exact Material.id_ne_focal_of_selected hn h
  have hdisjoint : Disjoint (m.neighborIds options) (m.selectedIds options budget) := by
    rw [Finset.disjoint_left]
    intro id hdirect hselected
    obtain ⟨side, n, hn, rfl⟩ := Material.mem_selectedIds.mp hselected
    exact Material.id_not_direct_of_selected hn (Material.mem_neighborIds.mp hdirect)
  have hnodup : (assemble options budget m).ids.Nodup := nodup_ids_assemble hid
  have hcard := List.toFinset_card_of_nodup hnodup
  rw [toFinset_ids_assemble hid, Finset.card_insert_of_notMem hfocal,
    Finset.card_union_of_disjoint hdisjoint, ids, List.length_map] at hcard
  omega

theorem has_transitive_iff (hid : m.focal.id ≠ "") {n : Node}
    (hn : n ∈ (assemble options budget m).nodes) :
    n.tags.has .transitive = true ↔ n.id ∈ m.selectedIds options budget := by
  rw [has_tags_assemble hid hn, Material.mem_selectedIds]
  simp only [has_directTags, has_transitiveTags]
  constructor
  · rintro (⟨n, -, -, htag | ⟨side, -, htag⟩⟩ | ⟨side, n, hn, hid, -⟩ | ⟨-, htag⟩)
    · contradiction
    · cases side <;> contradiction
    · exact ⟨side, n, hn, hid.symm⟩
    · contradiction
  · rintro ⟨side, n, hn, hid⟩
    exact Or.inr (Or.inl ⟨side, n, hn, hid.symm, Or.inl trivial⟩)

theorem length_withTag_transitive (hid : m.focal.id ≠ "") :
    ((assemble options budget m).withTag .transitive).length =
      (m.selectedIds options budget).card := by
  have hnodup : (((assemble options budget m).withTag .transitive).map (·.id)).Nodup :=
    (nodup_ids_assemble hid).sublist (List.filter_sublist.map _)
  have hcard := List.toFinset_card_of_nodup hnodup
  rw [List.length_map] at hcard
  rw [← hcard]
  congr 1
  ext id
  rw [List.mem_toFinset, List.mem_map]
  constructor
  · rintro ⟨n, hn, rfl⟩
    obtain ⟨hn, htag⟩ := List.mem_filter.mp hn
    exact (has_transitive_iff hid hn).mp htag
  · intro h
    have hmem : id ∈ (assemble options budget m).ids := by
      rw [← List.mem_toFinset, toFinset_ids_assemble hid]
      exact Finset.mem_insert_of_mem (Finset.mem_union_right _ h)
    obtain ⟨n, hn, rfl⟩ := List.mem_map.mp hmem
    exact ⟨n, List.mem_filter.mpr ⟨hn, (has_transitive_iff hid hn).mpr h⟩, rfl⟩

end Assemble

/-- The direct layer is shown in full, and what it leaves of the budget bounds the transitive nodes;
a single place stays empty. Where no id is a candidate on both sides, no place stays empty while
there is a candidate for it. -/
theorem length_nodes_within_budget (options : Options) (budget : Int) (m : Material)
    (hid : m.focal.id ≠ "") :
    (options.markFault = none → m.Typed →
      ∃ g, assemble? options (.whole budget) m = .ok g) ∧
    ∀ g, assemble? options (.whole budget) m = .ok g →
      let direct := (m.neighborIds options).card
      let room := budget - 1 - direct
      let taken := (g.withTag .transitive).length
      g.nodes.length = 1 + direct + taken ∧
      (room ≤ 1 → taken = 0) ∧
      (1 < room → taken ≤ room) ∧
      g.nodes.length ≤ max budget (1 + direct) ∧
      (1 < room →
        (∀ a ∈ m.pool options .caller, ∀ b ∈ m.pool options .callee, a.id ≠ b.id) →
        (taken : Int) =
          min room ((m.pool options .caller).length + (m.pool options .callee).length)) := by
  refine ⟨fun hmark htyped => ⟨_, assemble?_eq_ok hmark htyped⟩, fun g hg => ?_⟩
  obtain rfl := eq_assemble_of_assemble?_eq_ok hg
  intro direct room taken
  have hlength : (assemble options budget m).nodes.length = 1 + direct + _ :=
    length_nodes_assemble hid
  have htaken : taken = (m.selectedIds options budget).card := length_withTag_transitive hid
  have hle := m.card_selectedIds_le options budget
  have hsize := m.size_selection options budget
  rw [← htaken] at hlength hle
  have hnone : room ≤ 1 → taken = 0 := by
    intro hroom
    rw [if_pos hroom] at hsize
    omega
  have hsome : 1 < room → taken ≤ room := by
    intro hroom
    rw [if_neg (by omega)] at hsize
    omega
  refine ⟨hlength, hnone, hsome, by omega, fun hroom hdisjoint => ?_⟩
  rw [htaken, Material.card_selectedIds_of_disjoint hdisjoint, hsize, if_neg (by omega)]
  omega

theorem length_nodes_within_budget_of_crowded :
    ∃ g, assemble? {} (.whole 5) .crowded = .ok g ∧ g.nodes.length = 5 := by
  obtain ⟨hok, hall⟩ := length_nodes_within_budget {} 5 .crowded (by decide)
  obtain ⟨g, hg⟩ := hok rfl Material.crowded_typed
  obtain ⟨hlength, -, -, -, hfull⟩ := hall g hg
  have hdirect : (Material.crowded.neighborIds {}).card = 1 := by decide
  have hcallers : (Material.crowded.pool {} .caller).length = 2 := by decide
  have hcallees : (Material.crowded.pool {} .callee).length = 2 := by decide
  rw [hdirect, hcallers, hcallees] at hfull
  have htaken := hfull (by decide) (by decide)
  exact ⟨g, hg, by omega⟩

end CallAtlas.Graph
