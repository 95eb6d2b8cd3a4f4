import CallAtlas.Proofs.Graph.Edges
import Mathlib.Logic.Relation

/-! Ways through an assembled graph. A candidate is never selected before a nearer one of its side,
so the layers of a selection have no gap where its candidates have none, and from every caller and
to every callee the edges make up a way. -/
namespace CallAtlas.Graph

section Sorted

variable {α : Type} {r : α → α → Prop} {le : α → α → Bool}
  (htrans : ∀ a b c, r a b → r b c → r a c) (hle : ∀ a b, le a b = true → r a b)
  (hnot : ∀ a b, le a b = false → r b a)
include htrans hle hnot

/-- A comparison that a relation follows, both where it holds and where it does not, merges lists
in the order of the relation. It need not be an order itself. -/
theorem pairwise_merge_of_follows {xs ys : List α} (hxs : xs.Pairwise r) (hys : ys.Pairwise r) :
    (xs.merge ys le).Pairwise r := by
  fun_induction List.merge xs ys le with
  | case1 ys => exact hys
  | case2 xs => exact hxs
  | case3 x xs y ys hxy ih =>
    obtain ⟨hx, hxs⟩ := List.pairwise_cons.mp hxs
    refine List.pairwise_cons.mpr ⟨fun z hz => ?_, ih hxs hys⟩
    rcases List.mem_merge.mp hz with hz | hz
    · exact hx z hz
    · rcases List.mem_cons.mp hz with rfl | hz
      · exact hle _ _ hxy
      · exact htrans _ _ _ (hle _ _ hxy) ((List.pairwise_cons.mp hys).1 z hz)
  | case4 x xs y ys hxy ih =>
    obtain ⟨hy, hys⟩ := List.pairwise_cons.mp hys
    have hyx : r y x := hnot _ _ (by simpa using hxy)
    refine List.pairwise_cons.mpr ⟨fun z hz => ?_, ih hxs hys⟩
    rcases List.mem_merge.mp hz with hz | hz
    · rcases List.mem_cons.mp hz with rfl | hz
      · exact hyx
      · exact htrans _ _ _ hyx ((List.pairwise_cons.mp hxs).1 z hz)
    · exact hy z hz

theorem pairwise_mergeSort_of_follows (xs : List α) : (xs.mergeSort le).Pairwise r := by
  fun_induction List.mergeSort xs le with
  | case1 => exact .nil
  | case2 a => exact List.pairwise_singleton _ _
  | case3 a b xs le halves _ _ ihfirst ihsecond =>
    exact pairwise_merge_of_follows htrans hle hnot (ihfirst hle hnot) (ihsecond hle hnot)

end Sorted

theorem pairwise_score_rank (mark : String) (focal : FunctionNode) (nodes : List TraversalNode) :
    (rank mark focal nodes).Pairwise fun a b => score mark focal a ≤ score mark focal b := by
  apply pairwise_mergeSort_of_follows
  · exact fun a b c hab hbc => Int.le_trans hab hbc
  · intro a b h
    simp only [ranksBefore, Bool.or_eq_true, Bool.and_eq_true, decide_eq_true_eq, beq_iff_eq] at h
    omega
  · intro a b h
    simp only [ranksBefore, Bool.or_eq_false_iff, decide_eq_false_iff_not] at h
    omega

theorem mem_take_rank {mark : String} {focal : FunctionNode} {nodes : List TraversalNode}
    {i : Nat} {n p : TraversalNode} (hn : n ∈ (rank mark focal nodes).take i) (hp : p ∈ nodes)
    (hlt : score mark focal p < score mark focal n) : p ∈ (rank mark focal nodes).take i := by
  have hsorted := pairwise_score_rank mark focal nodes
  rw [← List.take_append_drop i (rank mark focal nodes), List.pairwise_append] at hsorted
  have hp' := (rank_perm mark focal nodes).mem_iff.mpr hp
  rw [← List.take_append_drop i (rank mark focal nodes), List.mem_append] at hp'
  refine hp'.resolve_right fun hdrop => ?_
  have hle := hsorted.2.2 n hn p hdrop
  omega

section Select

variable {mark : String} {focal : FunctionNode} {split : Split}
  {callers callees : List TraversalNode} {n p : TraversalNode}
  (hlt : score mark focal p < score mark focal n)
include hlt

theorem mem_take_append_leftover {nodes others : List TraversalNode} {i k : Nat}
    {keep : TraversalNode → Bool} (hkeep : keep p = true)
    (hothers : ∀ x ∈ (rank mark focal nodes).drop i, x ∈ others) (hp : p ∈ nodes)
    (hn : n ∈ (rank mark focal nodes).take i ++ ((rank mark focal others).take k).filter keep) :
    p ∈ (rank mark focal nodes).take i ++ ((rank mark focal others).take k).filter keep := by
  rw [List.mem_append, List.mem_filter] at hn ⊢
  rcases hn with hn | ⟨hn, -⟩
  · exact Or.inl (mem_take_rank hn hp hlt)
  · have hp' := (rank_perm mark focal nodes).mem_iff.mpr hp
    rw [← List.take_append_drop i (rank mark focal nodes), List.mem_append] at hp'
    exact hp'.imp_right fun hdrop => ⟨mem_take_rank hn (hothers p hdrop) hlt, hkeep⟩

theorem mem_select_callers (hp : p ∈ callers) (hside : p.direction = some .caller)
    (hn : n ∈ (select mark focal split callers callees).callers) :
    p ∈ (select mark focal split callers callees).callers := by
  unfold select at hn ⊢
  split
  · rw [if_pos ‹_›] at hn
    contradiction
  · rw [if_neg ‹_›] at hn
    exact mem_take_append_leftover hlt (by simp [isCaller, hside])
      (fun x hx => List.mem_append_left _ hx) hp hn

theorem mem_select_callees (hp : p ∈ callees) (hside : p.direction = some .callee)
    (hn : n ∈ (select mark focal split callers callees).callees) :
    p ∈ (select mark focal split callers callees).callees := by
  unfold select at hn ⊢
  split
  · rw [if_pos ‹_›] at hn
    contradiction
  · rw [if_neg ‹_›] at hn
    exact mem_take_append_leftover hlt (by simp [isCaller, hside])
      (fun x hx => List.mem_append_right _ hx) hp hn

end Select

namespace Material

variable {m : Material} {options : Options} {budget : Int} {side : Direction}

theorem mem_selection_of_nearer {n p : TraversalNode}
    (hn : n ∈ (m.selection options budget).side side) (hp : p ∈ m.pool options side)
    (hlt : p.depth < n.depth) : p ∈ (m.selection options budget).side side := by
  have hscore := score_lt_of_depth_lt options.externalMark m.focal hlt
  have hside := direction_of_mem_pool hp
  cases side with
  | caller => exact mem_select_callers hscore hp hside hn
  | callee => exact mem_select_callees hscore hp hside hn

/-- Before every candidate beyond the first layer there is one a layer nearer, or a direct
neighbour of the same side. -/
def HasNoGap (m : Material) (options : Options) (side : Direction) : Prop :=
  ∀ n ∈ m.pool options side, 2 ≤ n.depth →
    (∃ p ∈ m.pool options side, p.depth = n.depth - 1) ∨
      (n.depth = 2 ∧ ∃ d ∈ m.direct options, d.direction = some side)

theorem HasNoGap.exists_hangsOff (h : m.HasNoGap options side) {n : TraversalNode}
    (hn : n ∈ (m.selection options budget).side side) :
    ∃ near, m.HangsOff options budget side n near := by
  unfold HangsOff
  split
  · exact ⟨m.focal.id, rfl⟩
  · rename_i hdepth
    have hpool := (m.selection_subperm options budget side).subset hn
    rcases h n hpool (by omega) with ⟨p, hp, hnear⟩ | ⟨htwo, d, hd, hside⟩
    · exact ⟨p.id, Or.inl ⟨p, mem_selection_of_nearer hn hp (by omega), hnear, rfl⟩⟩
    · exact ⟨d.id, Or.inr ⟨by omega, d, hd, hside, rfl⟩⟩

end Material

def Leads (g : Graph) (source target : String) : Prop :=
  Relation.TransGen (fun a b => (a, b) ∈ g.edgePairs) source target

/-- A caller leads to the focal function, which leads to its callees. -/
def Attaches (g : Graph) (focal : String) : Direction → String → Prop
  | .caller, id => g.Leads id focal
  | .callee, id => g.Leads focal id

section Assemble

variable {options : Options} {budget : Int} {m : Material} {side : Direction}

theorem pair_link_mem_edgePairs (hid : m.focal.id ≠ "") {n : TraversalNode} {near : String}
    (hn : n ∈ (m.selection options budget).side side)
    (hnear : m.HangsOff options budget side n near) :
    (link side .transitive near n.id).pair ∈ (assemble options budget m).edgePairs := by
  cases side with
  | caller => exact (mem_edgePairs_assemble hid _ _).mpr ⟨_, _, .caller hn hnear⟩
  | callee => exact (mem_edgePairs_assemble hid _ _).mpr ⟨_, _, .callee hn hnear⟩

theorem attaches_direct (hid : m.focal.id ≠ "") {d : TraversalNode} (hd : d ∈ m.direct options)
    (hside : d.direction = some side) :
    (assemble options budget m).Attaches m.focal.id side d.id := by
  cases side with
  | caller => exact .single ((mem_edgePairs_assemble hid _ _).mpr ⟨_, _, .directCaller hd hside⟩)
  | callee => exact .single ((mem_edgePairs_assemble hid _ _).mpr ⟨_, _, .directCallee hd hside⟩)

theorem Attaches.extend {g : Graph} {focal near far : String} {kind : EdgeKind}
    (hlink : (link side kind near far).pair ∈ g.edgePairs)
    (hnear : near = focal ∨ g.Attaches focal side near) : g.Attaches focal side far := by
  cases side with
  | caller =>
    rcases hnear with rfl | hnear
    · exact .single hlink
    · exact .head hlink hnear
  | callee =>
    rcases hnear with rfl | hnear
    · exact .single hlink
    · exact .tail hnear hlink

/-- From layer to layer: what a selected node hangs off is nearer, and so attached already. -/
theorem attaches_selected (hid : m.focal.id ≠ "") (hgap : m.HasNoGap options side)
    {n : TraversalNode} (hn : n ∈ (m.selection options budget).side side) :
    (assemble options budget m).Attaches m.focal.id side n.id := by
  induction hdepth : n.depth.toNat using Nat.strongRecOn generalizing n with
  | ind depth ih =>
    obtain ⟨near, hnear⟩ := hgap.exists_hangsOff hn
    refine .extend (pair_link_mem_edgePairs hid hn hnear) ?_
    unfold Material.HangsOff at hnear
    split at hnear
    · exact Or.inl hnear
    · rcases hnear with ⟨p, hp, hlayer, rfl⟩ | ⟨-, d, hd, hside, rfl⟩
      · exact Or.inr (ih _ (by omega) hp rfl)
      · exact Or.inr (attaches_direct hid hd hside)

theorem attaches_of_has_tag (hid : m.focal.id ≠ "") (hgap : m.HasNoGap options side) {n : Node}
    (hn : n ∈ (assemble options budget m).nodes) (htag : n.tags.has (.ofDirection side) = true) :
    (assemble options budget m).Attaches m.focal.id side n.id := by
  have hsame {side' : Direction} (h : Tag.ofDirection side = Tag.ofDirection side') :
      side' = side := by
    cases side <;> cases side' <;> trivial
  have hlayer {tag : Tag} (h : tag = .direct ∨ tag = .transitive ∨ tag = .focus) :
      Tag.ofDirection side ≠ tag := by
    rcases h with rfl | rfl | rfl <;> cases side <;> simp [Tag.ofDirection]
  rcases (has_tags_assemble hid hn _).mp htag with ⟨d, hd, hnd, h⟩ | ⟨side', x, hx, hnx, h⟩ | ⟨-, h⟩
  · rcases has_directTags.mp h with h | ⟨side', hside, h⟩
    · exact absurd h (hlayer (by simp))
    · rw [hnd]
      exact attaches_direct hid hd (hsame h ▸ hside)
  · rcases has_transitiveTags.mp h with h | h
    · exact absurd h (hlayer (by simp))
    · rw [hnx]
      exact attaches_selected hid hgap (hsame h ▸ hx)
  · exact absurd h (hlayer (by simp))

end Assemble

/-- No node is cut off, wherever the budget ends: if the candidates of a side leave out no depth,
every caller leads to the focal function, and the focal function to every callee. -/
theorem tagged_nodes_attached (options : Options) (budget : Int) (m : Material)
    (hid : m.focal.id ≠ "") :
    (options.markFault = none → m.Typed →
      ∃ g, assemble? options (.whole budget) m = .ok g) ∧
    ∀ g, assemble? options (.whole budget) m = .ok g →
      (m.HasNoGap options .caller →
        ∀ n ∈ g.nodes, n.tags.has .caller = true → g.Leads n.id m.focal.id) ∧
      (m.HasNoGap options .callee →
        ∀ n ∈ g.nodes, n.tags.has .callee = true → g.Leads m.focal.id n.id) := by
  refine ⟨fun hmark htyped => ⟨_, assemble?_eq_ok hmark htyped⟩, fun g hg => ?_⟩
  obtain rfl := eq_assemble_of_assemble?_eq_ok hg
  constructor
  · intro hgap n hn htag
    exact attaches_of_has_tag hid hgap hn htag
  · intro hgap n hn htag
    exact attaches_of_has_tag hid hgap hn htag

theorem Material.crowded_hasNoGap (side : Direction) : crowded.HasNoGap {} side := by
  intro n hn hdepth
  cases side with
  | caller =>
    have hpool : crowded.pool {} .caller =
        [{ id := "a", direction := some .caller, depth := 2 },
          { id := "b", direction := some .caller, depth := 1 }] := rfl
    rw [hpool] at hn ⊢
    simp only [List.mem_cons, List.not_mem_nil, or_false] at hn
    rcases hn with rfl | rfl
    · exact Or.inl ⟨_, List.mem_cons_of_mem _ List.mem_cons_self, rfl⟩
    · exact absurd hdepth (by decide)
  | callee =>
    have hpool : crowded.pool {} .callee =
        [{ id := "x", direction := some .callee, depth := 0 },
          { id := "y", direction := some .callee, depth := 2 }] := rfl
    rw [hpool] at hn
    simp only [List.mem_cons, List.not_mem_nil, or_false] at hn
    rcases hn with rfl | rfl
    · exact absurd hdepth (by decide)
    · exact Or.inr ⟨rfl, { id := "d", direction := some .callee },
        List.mem_cons_of_mem _ List.mem_cons_self, rfl⟩

theorem tagged_nodes_attached_of_crowded :
    ∃ g, assemble? {} (.whole 6) .crowded = .ok g ∧ g.Leads "a" "f" ∧ g.Leads "f" "y" := by
  obtain ⟨hok, hall⟩ := tagged_nodes_attached {} 6 .crowded (by decide)
  obtain ⟨g, hg⟩ := hok rfl Material.crowded_typed
  obtain ⟨hcallers, hcallees⟩ := hall g hg
  obtain rfl := eq_assemble_of_assemble?_eq_ok hg
  have htagged (side : Direction) (id : String)
      (h : id ∈ (Material.crowded.pool {} side).map (·.id)) :
      ∃ n ∈ (assemble {} 6 .crowded).nodes, n.id = id ∧
        n.tags.has (.ofDirection side) = true := by
    obtain ⟨x, hx, rfl⟩ := List.mem_map.mp h
    have hx' : x ∈ (Material.crowded.selection {} 6).side side :=
      Material.mem_selection_of_fits (by decide) (by decide) hx
    have hmem : x.id ∈ (assemble {} 6 .crowded).ids :=
      (mem_ids_assemble (by decide)).mpr (Or.inr (Or.inl ⟨side, List.mem_map_of_mem hx'⟩))
    obtain ⟨n, hn, hnx⟩ := List.mem_map.mp hmem
    exact ⟨n, hn, hnx, (has_tags_assemble (by decide) hn _).mpr
      (Or.inr (Or.inl ⟨side, x, hx', hnx, has_transitiveTags.mpr (Or.inr rfl)⟩))⟩
  obtain ⟨a, ha, haid, hatag⟩ := htagged .caller "a" (by decide)
  obtain ⟨y, hy, hyid, hytag⟩ := htagged .callee "y" (by decide)
  have hleads := hcallers (Material.crowded_hasNoGap .caller) a ha hatag
  have hled := hcallees (Material.crowded_hasNoGap .callee) y hy hytag
  rw [haid] at hleads
  rw [hyid] at hled
  exact ⟨_, hg, hleads, hled⟩

end CallAtlas.Graph
