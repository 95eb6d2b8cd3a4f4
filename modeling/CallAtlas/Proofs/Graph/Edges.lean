import CallAtlas.Proofs.Graph.Members
import CallAtlas.Proofs.Graph.Typed

/-! The edges of an assembled graph. All wanted edges join two nodes of the table, so none is lost
when they are added; of several between the same nodes the first stays. -/
namespace CallAtlas.Graph

def Joins (g : Graph) (e : Edge) : Prop :=
  e.source ≠ e.target ∧ e.source ∈ g.ids ∧ e.target ∈ g.ids

theorem hasPair_iff {g : Graph} {e : Edge} :
    g.hasPair e.source e.target = true ↔ e.pair ∈ g.edgePairs := by
  simp [hasPair, edgePairs, Edge.pair, and_comm]

theorem edges_addEdge {g : Graph} {e : Edge} (h : g.Joins e) :
    (g.addEdge e).edges = if e.pair ∈ g.edgePairs then g.edges else g.edges ++ [e] := by
  obtain ⟨hne, hsource, htarget⟩ := h
  have haccepts : g.accepts e = true ↔ e.pair ∉ g.edgePairs := by
    rw [← hasPair_iff]
    simp [accepts, hne, has_eq_true_iff.mpr hsource, has_eq_true_iff.mpr htarget]
  unfold addEdge
  by_cases hpair : e.pair ∈ g.edgePairs
  · rw [if_neg (by simpa [haccepts] using hpair), if_pos hpair]
  · rw [if_pos (haccepts.mpr hpair), if_neg hpair]

theorem nodup_edgePairs_addEdge {g : Graph} (h : g.edgePairs.Nodup) (e : Edge) :
    (g.addEdge e).edgePairs.Nodup := by
  unfold addEdge
  split
  · rename_i haccepts
    have hpair : e.pair ∉ g.edgePairs := by
      rw [← hasPair_iff]
      simp only [accepts, Bool.and_eq_true, Bool.not_eq_true'] at haccepts
      simp [haccepts.2]
    rw [edgePairs, List.map_append]
    exact List.Nodup.append h (List.nodup_singleton _) (List.disjoint_singleton.mpr hpair)
  · exact h

theorem nodup_edgePairs_foldl_addEdge {g : Graph} (h : g.edgePairs.Nodup) (edges : List Edge) :
    (edges.foldl addEdge g).edgePairs.Nodup := by
  induction edges generalizing g with
  | nil => exact h
  | cons e es ih => exact ih (nodup_edgePairs_addEdge h e)

theorem find?_addEdge {g : Graph} {e : Edge} (h : g.Joins e) (p : String × String) :
    (g.addEdge e).edges.find? (·.pair == p) =
      (g.edges.find? (·.pair == p)).or ([e].find? (·.pair == p)) := by
  rw [edges_addEdge h]
  split
  · rename_i hpair
    by_cases hp : e.pair = p
    · obtain ⟨x, hx, hxe⟩ := List.mem_map.mp hpair
      have hfound : (g.edges.find? (·.pair == p)).isSome = true :=
        List.find?_isSome.mpr ⟨x, hx, by simp [hxe, hp]⟩
      rw [Option.or_of_isSome hfound]
    · simp [hp]
  · rw [List.find?_append]

theorem find?_foldl_addEdge {g : Graph} {edges : List Edge} (h : ∀ e ∈ edges, g.Joins e)
    (p : String × String) :
    (edges.foldl addEdge g).edges.find? (·.pair == p) =
      (g.edges.find? (·.pair == p)).or (edges.find? (·.pair == p)) := by
  induction edges generalizing g with
  | nil => simp
  | cons e es ih =>
    have hids : (g.addEdge e).ids = g.ids := by rw [ids, nodes_addEdge, ids]
    have hrest : ∀ x ∈ es, (g.addEdge e).Joins x := by
      intro x hx
      unfold Joins
      rw [hids]
      exact h x (List.mem_cons_of_mem _ hx)
    rw [List.foldl_cons, ih hrest, find?_addEdge (h e List.mem_cons_self), Option.or_assoc,
      ← List.find?_append, List.singleton_append]

namespace Material

variable (m : Material) (options : Options) (budget : Int)

def InLayer (side : Direction) (depth : Int) (id : String) : Prop :=
  (∃ n ∈ (m.selection options budget).side side, n.depth = depth ∧ n.id = id) ∨
    (depth = 1 ∧ ∃ d ∈ m.direct options, d.direction = some side ∧ d.id = id)

/-- A node hangs off all of the layer before its own, and in the first layer off the focal
function. -/
def HangsOff (side : Direction) (n : TraversalNode) (id : String) : Prop :=
  if n.depth ≤ 1 then id = m.focal.id else m.InLayer options budget side (n.depth - 1) id

/-- The edges wanted, from the calling function to the called one. -/
inductive Wants : Direction → EdgeKind → String → String → Prop
  | directCaller {d : TraversalNode} (hd : d ∈ m.direct options)
    (hside : d.direction = some .caller) : Wants .caller .direct d.id m.focal.id
  | directCallee {d : TraversalNode} (hd : d ∈ m.direct options)
    (hside : d.direction = some .callee) : Wants .callee .direct m.focal.id d.id
  | caller {n : TraversalNode} {near : String} (hn : n ∈ (m.selection options budget).callers)
    (hnear : m.HangsOff options budget .caller n near) : Wants .caller .transitive n.id near
  | callee {n : TraversalNode} {near : String} (hn : n ∈ (m.selection options budget).callees)
    (hnear : m.HangsOff options budget .callee n near) : Wants .callee .transitive near n.id

variable {m options budget} {side : Direction} {kind : EdgeKind} {source target : String}

theorem mem_layer {depth : Int} {id : String} :
    id ∈ layer side (m.direct options) ((m.selection options budget).side side) depth ↔
      m.InLayer options budget side depth id := by
  unfold layer InLayer
  rw [List.mem_eraseDups, List.map_append, List.mem_append, or_comm]
  refine or_congr ?_ ?_
  · simp [and_assoc]
  · by_cases hdepth : depth = 1
    · simp [hdepth, and_assoc]
    · simp [hdepth]

theorem mem_parents {n : TraversalNode} {id : String} :
    id ∈ parents m.focal.id side (m.direct options) ((m.selection options budget).side side)
        n.depth ↔ m.HangsOff options budget side n id := by
  unfold parents HangsOff
  split
  · exact List.mem_singleton
  · exact mem_layer

theorem mem_directLinks {e : Edge} :
    e ∈ directLinks m.focal.id (m.direct options) ↔
      ∃ side, ∃ d ∈ m.direct options, d.direction = some side ∧
        link side .direct m.focal.id d.id = e := by
  unfold directLinks
  rw [List.mem_filterMap]
  constructor
  · rintro ⟨d, hd, h⟩
    obtain ⟨side, hside, rfl⟩ := Option.map_eq_some_iff.mp h
    exact ⟨side, d, hd, hside, rfl⟩
  · rintro ⟨side, d, hd, hside, rfl⟩
    exact ⟨d, hd, Option.map_eq_some_iff.mpr ⟨side, hside, rfl⟩⟩

theorem mem_layerLinks {e : Edge} :
    e ∈ layerLinks m.focal.id side (m.direct options) ((m.selection options budget).side side) ↔
      ∃ n ∈ (m.selection options budget).side side, ∃ near,
        m.HangsOff options budget side n near ∧ link side .transitive near n.id = e := by
  unfold layerLinks
  simp only [List.mem_flatMap, List.mem_map, mem_parents]

theorem mem_linksOf {e : Edge} :
    e ∈ linksOf m.focal.id (m.direct options) (m.selection options budget) ↔
      m.Wants options budget e.relation e.kind e.source e.target := by
  unfold linksOf
  rw [List.mem_append, List.mem_append, mem_directLinks, ← Selection.side_caller,
    ← Selection.side_callee, mem_layerLinks, mem_layerLinks]
  constructor
  · rintro ((⟨side, d, hd, hside, rfl⟩ | ⟨n, hn, near, hnear, rfl⟩) | ⟨n, hn, near, hnear, rfl⟩)
    · cases side with
      | caller => exact .directCaller hd hside
      | callee => exact .directCallee hd hside
    · exact .caller hn hnear
    · exact .callee hn hnear
  · obtain ⟨source, target, kind, relation⟩ := e
    intro h
    cases h with
    | directCaller hd hside => exact Or.inl (Or.inl ⟨.caller, _, hd, hside, rfl⟩)
    | directCallee hd hside => exact Or.inl (Or.inl ⟨.callee, _, hd, hside, rfl⟩)
    | caller hn hnear => exact Or.inl (Or.inr ⟨_, hn, _, hnear, rfl⟩)
    | callee hn hnear => exact Or.inr ⟨_, hn, _, hnear, rfl⟩

theorem HangsOff.ne {n : TraversalNode} {near : String}
    (hn : n ∈ (m.selection options budget).side side)
    (h : m.HangsOff options budget side n near) : near ≠ n.id := by
  unfold HangsOff at h
  split at h
  · rw [h]
    exact (id_ne_focal_of_selected hn).symm
  · rcases h with ⟨p, hp, hdepth, rfl⟩ | ⟨-, d, hd, -, rfl⟩
    · intro hid
      rw [List.inj_on_of_nodup_map (m.nodup_ids_selection options budget side) hp hn hid] at hdepth
      omega
    · intro hid
      exact id_not_direct_of_selected hn (mem_directIds.mpr ⟨d, hd, hid⟩)

theorem HangsOff.mem_ids {n : TraversalNode} {near : String}
    (h : m.HangsOff options budget side n near) :
    near ∈ (nodesOf m.focal (m.direct options) (m.selection options budget)).ids := by
  rw [mem_ids_nodesOf]
  unfold HangsOff at h
  split at h
  · exact Or.inr (Or.inr h)
  · rcases h with ⟨p, hp, -, rfl⟩ | ⟨-, d, hd, -, rfl⟩
    · exact Or.inr (Or.inl ⟨side, List.mem_map_of_mem hp⟩)
    · exact Or.inl (List.mem_map_of_mem hd)

theorem focal_ne_of_mem_direct {d : TraversalNode} (hd : d ∈ m.direct options) :
    d.id ≠ m.focal.id :=
  fun h => focal_not_mem_directIds (mem_directIds.mpr ⟨d, hd, h⟩)

theorem Wants.joins {e : Edge} (h : m.Wants options budget e.relation e.kind e.source e.target) :
    (nodesOf m.focal (m.direct options) (m.selection options budget)).Joins e := by
  have hfocal : m.focal.id ∈ (nodesOf m.focal (m.direct options)
      (m.selection options budget)).ids := mem_ids_nodesOf.mpr (Or.inr (Or.inr rfl))
  have hdirect {d : TraversalNode} (hd : d ∈ m.direct options) :
      d.id ∈ (nodesOf m.focal (m.direct options) (m.selection options budget)).ids :=
    mem_ids_nodesOf.mpr (Or.inl (List.mem_map_of_mem hd))
  have hselected {side : Direction} {n : TraversalNode}
      (hn : n ∈ (m.selection options budget).side side) :
      n.id ∈ (nodesOf m.focal (m.direct options) (m.selection options budget)).ids :=
    mem_ids_nodesOf.mpr (Or.inr (Or.inl ⟨side, List.mem_map_of_mem hn⟩))
  obtain ⟨source, target, kind, relation⟩ := e
  cases h with
  | directCaller hd => exact ⟨focal_ne_of_mem_direct hd, hdirect hd, hfocal⟩
  | directCallee hd => exact ⟨(focal_ne_of_mem_direct hd).symm, hfocal, hdirect hd⟩
  | caller hn hnear =>
    rw [← Selection.side_caller] at hn
    exact ⟨(hnear.ne hn).symm, hselected hn, hnear.mem_ids⟩
  | callee hn hnear =>
    rw [← Selection.side_callee] at hn
    exact ⟨hnear.ne hn, hnear.mem_ids, hselected hn⟩

theorem Wants.mem_excluded (h : m.Wants options budget side .direct source target) :
    source ∈ m.excluded options ∧ target ∈ m.excluded options := by
  have hfocal : m.focal.id ∈ m.excluded options := List.mem_cons_self
  have hdirect {d : TraversalNode} (hd : d ∈ m.direct options) : d.id ∈ m.excluded options :=
    List.mem_cons_of_mem _ (mem_directIds.mpr ⟨d, hd, rfl⟩)
  cases h with
  | directCaller hd => exact ⟨hdirect hd, hfocal⟩
  | directCallee hd => exact ⟨hfocal, hdirect hd⟩

theorem Wants.not_mem_excluded (h : m.Wants options budget side .transitive source target) :
    ¬(source ∈ m.excluded options ∧ target ∈ m.excluded options) := by
  rintro ⟨hsource, htarget⟩
  cases h with
  | caller hn =>
    rw [← Selection.side_caller] at hn
    exact not_mem_excluded_of_selected hn hsource
  | callee hn =>
    rw [← Selection.side_callee] at hn
    exact not_mem_excluded_of_selected hn htarget

theorem Wants.kind_eq {side' : Direction} {kind' : EdgeKind}
    (h : m.Wants options budget side kind source target)
    (h' : m.Wants options budget side' kind' source target) : kind = kind' := by
  cases kind with
  | direct =>
    cases kind' with
    | direct => rfl
    | transitive => exact absurd h.mem_excluded h'.not_mem_excluded
  | transitive =>
    cases kind' with
    | direct => exact absurd h'.mem_excluded h.not_mem_excluded
    | transitive => rfl

theorem Wants.source_ne_focal (h : m.Wants options budget .caller kind source target) :
    source ≠ m.focal.id := by
  cases h with
  | directCaller hd => exact focal_ne_of_mem_direct hd
  | caller hn =>
    rw [← Selection.side_caller] at hn
    exact id_ne_focal_of_selected hn

theorem relation_of_mem_layerLinks {e : Edge} {direct chosen : List TraversalNode}
    (h : e ∈ layerLinks m.focal.id side direct chosen) : e.relation = side := by
  unfold layerLinks at h
  obtain ⟨n, -, h⟩ := List.mem_flatMap.mp h
  obtain ⟨near, -, rfl⟩ := List.mem_map.mp h
  cases side <;> rfl

theorem relation_of_find?_linksOf {e : Edge}
    (hfind : (linksOf m.focal.id (m.direct options) (m.selection options budget)).find?
      (·.pair == (source, target)) = some e)
    (hwants : m.Wants options budget .caller kind source target) : e.relation = .caller := by
  have hpair : e.pair = (source, target) := by simpa using List.find?_some hfind
  obtain ⟨rfl, rfl⟩ := Prod.mk.inj hpair
  have hedge : ⟨e.source, e.target, kind, .caller⟩ ∈
      directLinks m.focal.id (m.direct options) ++
        layerLinks m.focal.id .caller (m.direct options) (m.selection options budget).callers := by
    have hmem := mem_linksOf (e := ⟨e.source, e.target, kind, .caller⟩).mpr hwants
    refine (List.mem_append.mp hmem).resolve_right fun h => ?_
    have hside : Direction.caller = .callee := relation_of_mem_layerLinks h
    contradiction
  -- So the look-up ends before it comes to the callees' layers.
  have hsome := List.find?_isSome (p := fun x : Edge => x.pair == (e.source, e.target)).mpr
    ⟨_, hedge, beq_self_eq_true _⟩
  rw [linksOf, List.find?_append, Option.or_of_isSome hsome] at hfind
  rcases List.mem_append.mp (List.mem_of_find?_eq_some hfind) with h | h
  · obtain ⟨side, d, -, -, rfl⟩ := mem_directLinks.mp h
    cases side with
    | caller => rfl
    | callee => exact absurd rfl hwants.source_ne_focal
  · exact relation_of_mem_layerLinks h

end Material

section Assemble

variable {options : Options} {budget : Int} {m : Material}

theorem nodup_edgePairs_assemble (hid : m.focal.id ≠ "") :
    (assemble options budget m).edgePairs.Nodup := by
  rw [assemble_eq hid]
  apply nodup_edgePairs_foldl_addEdge
  rw [edgePairs, edges_nodesOf]
  exact List.nodup_nil

theorem find?_assemble (hid : m.focal.id ≠ "") (p : String × String) :
    (assemble options budget m).edges.find? (·.pair == p) =
      (linksOf m.focal.id (m.direct options) (m.selection options budget)).find?
        (·.pair == p) := by
  rw [assemble_eq hid, find?_foldl_addEdge fun e he => (Material.mem_linksOf.mp he).joins,
    edges_nodesOf]
  rfl

theorem find?_of_mem_assemble (hid : m.focal.id ≠ "") {e : Edge}
    (he : e ∈ (assemble options budget m).edges) :
    (linksOf m.focal.id (m.direct options) (m.selection options budget)).find?
      (·.pair == e.pair) = some e := by
  rw [← find?_assemble hid]
  exact Keys.find?_of_mem (nodup_edgePairs_assemble hid) he

theorem mem_edgePairs_assemble (hid : m.focal.id ≠ "") (source target : String) :
    (source, target) ∈ (assemble options budget m).edgePairs ↔
      ∃ side kind, m.Wants options budget side kind source target := by
  constructor
  · intro h
    obtain ⟨e, he, hpair⟩ := List.mem_map.mp h
    obtain ⟨rfl, rfl⟩ := Prod.mk.inj hpair
    have hlinks := List.mem_of_find?_eq_some (find?_of_mem_assemble hid he)
    exact ⟨e.relation, e.kind, Material.mem_linksOf.mp hlinks⟩
  · rintro ⟨side, kind, h⟩
    have hlinks := Material.mem_linksOf (e := ⟨source, target, kind, side⟩).mpr h
    have hsome := List.find?_isSome (p := fun x : Edge => x.pair == (source, target)).mpr
      ⟨_, hlinks, beq_self_eq_true _⟩
    rw [← find?_assemble hid] at hsome
    obtain ⟨e, he, hpair⟩ := List.find?_isSome.mp hsome
    exact List.mem_map.mpr ⟨e, he, by simpa using hpair⟩

end Assemble

/-- Every edge that is wanted is there, and no other. Where both sides want one between the same
nodes, it is there once and counts as the callers'. -/
theorem edges_as_wanted (options : Options) (budget : Int) (m : Material)
    (hid : m.focal.id ≠ "") :
    (options.markFault = none → m.Typed →
      ∃ g, assemble? options (.whole budget) m = .ok g) ∧
    ∀ g, assemble? options (.whole budget) m = .ok g →
      (∀ source target, (source, target) ∈ g.edgePairs ↔
        ∃ side kind, m.Wants options budget side kind source target) ∧
      g.edgePairs.Nodup ∧
      ∀ e ∈ g.edges,
        e.source ≠ e.target ∧ e.source ∈ g.ids ∧ e.target ∈ g.ids ∧
        m.Wants options budget e.relation e.kind e.source e.target ∧
        (e.kind = .direct ↔ ∃ side, m.Wants options budget side .direct e.source e.target) ∧
        ∀ kind, m.Wants options budget .caller kind e.source e.target → e.relation = .caller := by
  refine ⟨fun hmark htyped => ⟨_, assemble?_eq_ok hmark htyped⟩, fun g hg => ?_⟩
  obtain rfl := eq_assemble_of_assemble?_eq_ok hg
  refine ⟨mem_edgePairs_assemble hid, nodup_edgePairs_assemble hid, fun e he => ?_⟩
  have hfind := find?_of_mem_assemble hid he
  have hwants := Material.mem_linksOf.mp (List.mem_of_find?_eq_some hfind)
  obtain ⟨hne, hsource, htarget⟩ := hwants.joins
  rw [ids, nodes_assemble hid]
  refine ⟨hne, hsource, htarget, hwants, ⟨fun hkind => ?_, ?_⟩, fun kind hcaller => ?_⟩
  · exact ⟨e.relation, hkind ▸ hwants⟩
  · rintro ⟨side, hdirect⟩
    exact hwants.kind_eq hdirect
  · exact Material.relation_of_find?_linksOf hfind hcaller

theorem edges_as_wanted_of_crowded :
    ∃ g, assemble? {} (.whole 60) .crowded = .ok g ∧ ("a", "d") ∈ g.edgePairs ∧
      ("f", "f") ∉ g.edgePairs := by
  obtain ⟨hok, hall⟩ := edges_as_wanted {} 60 .crowded (by decide)
  obtain ⟨g, hg⟩ := hok rfl Material.crowded_typed
  obtain ⟨hpairs, -, hedges⟩ := hall g hg
  let a : TraversalNode := { id := "a", direction := some .caller, depth := 2 }
  have ha : a ∈ (Material.crowded.selection {} 60).side .caller :=
    Material.mem_selection_of_fits (by decide) (by decide) List.mem_cons_self
  have hnear : Material.crowded.HangsOff {} 60 .caller a "d" :=
    Or.inr ⟨rfl, { id := "d", direction := some .caller }, List.mem_cons_self, rfl, rfl⟩
  have hwants : Material.crowded.Wants {} 60 .caller .transitive "a" "d" := .caller ha hnear
  refine ⟨g, hg, (hpairs _ _).mpr ⟨_, _, hwants⟩, fun h => ?_⟩
  obtain ⟨e, he, hpair⟩ := List.mem_map.mp h
  obtain ⟨hsource, htarget⟩ := Prod.mk.inj hpair
  exact (hedges e he).1 (hsource.trans htarget.symm)

end CallAtlas.Graph
