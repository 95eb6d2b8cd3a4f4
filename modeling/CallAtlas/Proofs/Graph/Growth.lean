import CallAtlas.Proofs.Graph.Edges
import CallAtlas.Proofs.Graph.Ranking

/-! A larger budget only adds to a graph. Either side's selection is the head of one ranking, which
does not depend on the budget, and no part of the room shrinks as the budget grows. -/
namespace CallAtlas.Graph

theorem Split.ofBudget_mono {budget budget' : Int} (h : budget ≤ budget') (direct : Int) :
    (ofBudget budget direct).remaining ≤ (ofBudget budget' direct).remaining ∧
      (ofBudget budget direct).callers ≤ (ofBudget budget' direct).callers ∧
      (ofBudget budget direct).callees ≤ (ofBudget budget' direct).callees := by
  simp only [ofBudget]
  split <;> split <;> simp only <;> omega

namespace Material

variable {m : Material} {options : Options} {budget budget' : Int} {side : Direction}

theorem Typed.lieOn (h : m.Typed) (options : Options) (side : Direction) :
    LieOn side (m.pool options side) :=
  fun n hn => ⟨direction_of_mem_pool hn, h.pool side n hn⟩

theorem Typed.selection_prefix (h : m.Typed) (hle : budget ≤ budget') (side : Direction) :
    (m.selection options budget).side side <+: (m.selection options budget').side side := by
  obtain ⟨hremaining, hcallers, hcallees⟩ :=
    Split.ofBudget_mono hle (m.directIds options).length
  have htaken (budget : Int) : m.selection options budget = _ :=
    select_eq_take (h.lieOn options .caller) (h.lieOn options .callee) budget
      (m.directIds options).length
  rw [htaken, htaken]
  cases side with
  | caller => exact List.take_prefix_take_left (by omega)
  | callee => exact List.take_prefix_take_left (by omega)

section Larger

variable (h : m.Typed) (hle : budget ≤ budget')
include h hle

theorem mem_selection_of_le {n : TraversalNode}
    (hn : n ∈ (m.selection options budget).side side) :
    n ∈ (m.selection options budget').side side :=
  (h.selection_prefix hle side).subset hn

theorem InLayer.of_le {depth : Int} {id : String} (hid : m.InLayer options budget side depth id) :
    m.InLayer options budget' side depth id := by
  refine Or.imp_left ?_ hid
  rintro ⟨n, hn, hdepth⟩
  exact ⟨n, mem_selection_of_le h hle hn, hdepth⟩

theorem HangsOff.of_le {n : TraversalNode} {id : String}
    (hid : m.HangsOff options budget side n id) : m.HangsOff options budget' side n id := by
  unfold HangsOff at hid ⊢
  split at hid
  · rwa [if_pos ‹_›]
  · rw [if_neg ‹_›]
    exact hid.of_le h hle

theorem Wants.of_le {kind : EdgeKind} {source target : String}
    (hwants : m.Wants options budget side kind source target) :
    m.Wants options budget' side kind source target := by
  cases hwants with
  | directCaller hd hside => exact .directCaller hd hside
  | directCallee hd hside => exact .directCallee hd hside
  | @caller n _ hn hnear =>
    have hn' : n ∈ (m.selection options budget').side .caller := mem_selection_of_le h hle hn
    exact .caller hn' (hnear.of_le h hle)
  | @callee n _ hn hnear =>
    have hn' : n ∈ (m.selection options budget').side .callee := mem_selection_of_le h hle hn
    exact .callee hn' (hnear.of_le h hle)

end Larger
end Material

section Assemble

variable {options : Options} {m : Material} {budget budget' : Int} (h : m.Typed)
  (hle : budget ≤ budget')
include h hle

theorem mem_ids_of_le (hid : m.focal.id ≠ "") {id : String}
    (hmem : id ∈ (assemble options budget m).ids) : id ∈ (assemble options budget' m).ids := by
  rw [mem_ids_assemble hid] at hmem ⊢
  refine Or.imp_right (Or.imp_left ?_) hmem
  rintro ⟨side, hside⟩
  exact ⟨side, ((h.selection_prefix hle side).map _).subset hside⟩

theorem has_tag_of_le (hid : m.focal.id ≠ "") {n n' : Node}
    (hn : n ∈ (assemble options budget m).nodes) (hn' : n' ∈ (assemble options budget' m).nodes)
    (hsame : n.id = n'.id) {tag : Tag} (htag : n.tags.has tag = true) :
    n'.tags.has tag = true := by
  rw [has_tags_assemble hid hn, hsame] at htag
  rw [has_tags_assemble hid hn']
  refine Or.imp_right (Or.imp_left ?_) htag
  rintro ⟨side, x, hx, hrest⟩
  exact ⟨side, x, Material.mem_selection_of_le h hle hx, hrest⟩

theorem mem_edgePairs_of_le (hid : m.focal.id ≠ "") {p : String × String}
    (hp : p ∈ (assemble options budget m).edgePairs) :
    p ∈ (assemble options budget' m).edgePairs := by
  obtain ⟨source, target⟩ := p
  rw [mem_edgePairs_assemble hid] at hp ⊢
  obtain ⟨side, kind, hwants⟩ := hp
  exact ⟨side, kind, hwants.of_le h hle⟩

end Assemble

/-- A larger budget takes no node, no tag and no edge from a graph. -/
theorem assemble_grows_with_budget (options : Options) (m : Material)
    (hmark : options.markFault = none) (h : m.Typed) {budget budget' : Int}
    (hle : budget ≤ budget') :
    ∃ g g', assemble? options (.whole budget) m = .ok g ∧
      assemble? options (.whole budget') m = .ok g' ∧
      (∀ id ∈ g.ids, id ∈ g'.ids) ∧
      (∀ n ∈ g.nodes, ∀ n' ∈ g'.nodes, n.id = n'.id →
        ∀ tag, n.tags.has tag = true → n'.tags.has tag = true) ∧
      ∀ p ∈ g.edgePairs, p ∈ g'.edgePairs := by
  refine ⟨_, _, assemble?_eq_ok hmark h, assemble?_eq_ok hmark h, ?_⟩
  by_cases hid : m.focal.id = ""
  · simp [assemble, hid, empty, ids, edgePairs]
  · refine ⟨fun id hmem => mem_ids_of_le h hle hid hmem, ?_,
      fun p hp => mem_edgePairs_of_le h hle hid hp⟩
    exact fun n hn n' hn' hsame tag htag => has_tag_of_le h hle hid hn hn' hsame htag

theorem assemble_grows_with_budget_of_crowded :
    ∃ g g', assemble? {} (.whole 2) .crowded = .ok g ∧ assemble? {} (.whole 60) .crowded = .ok g' ∧
      "a" ∉ g.ids ∧ "a" ∈ g'.ids ∧ "d" ∈ g'.ids := by
  obtain ⟨g, g', hg, hg', hids, -, -⟩ :=
    assemble_grows_with_budget {} .crowded rfl Material.crowded_typed
      (show (2 : Int) ≤ 60 by decide)
  obtain rfl := eq_assemble_of_assemble?_eq_ok hg
  obtain rfl := eq_assemble_of_assemble?_eq_ok hg'
  have hdirect : "d" ∈ (assemble {} 2 .crowded).ids :=
    (mem_ids_assemble (by decide)).mpr (Or.inl (by decide))
  refine ⟨_, _, hg, hg', fun hmem => ?_, ?_, hids "d" hdirect⟩
  · have hnone (side : Direction) : (Material.crowded.selection {} 2).side side = [] := by
      cases side <;> rfl
    rcases (mem_ids_assemble (by decide)).mp hmem with hdirect | ⟨side, hside⟩ | hfocal
    · exact absurd hdirect (by decide)
    · simp [hnone] at hside
    · exact absurd hfocal (by decide)
  · have ha : { id := "a", direction := some .caller, depth := 2 } ∈
        (Material.crowded.selection {} 60).side .caller :=
      Material.mem_selection_of_fits (by decide) (by decide) List.mem_cons_self
    exact (mem_ids_assemble (by decide)).mpr (Or.inr (Or.inl ⟨.caller, List.mem_map_of_mem ha⟩))

end CallAtlas.Graph
