import CallAtlas.Proofs.Graph.Attributes
import CallAtlas.Proofs.Graph.Candidates
import CallAtlas.Proofs.Graph.Size

namespace CallAtlas.Graph

section Edges

variable {options : Options} {budget : Int} {m : Material}

theorem mem_edges_assemble (hid : m.focal.id ≠ "") {e : Edge} :
    e ∈ (assemble options budget m).edges ↔
      m.Wants options budget e.relation e.kind e.source e.target ∧
      ((∃ kind, m.Wants options budget .caller kind e.source e.target) →
        e.relation = .caller) := by
  have hwanted {x : Edge} (hx : x ∈ (assemble options budget m).edges) :
      m.Wants options budget x.relation x.kind x.source x.target ∧
      ((∃ kind, m.Wants options budget .caller kind x.source x.target) →
        x.relation = .caller) := by
    have hfind := find?_of_mem_assemble hid hx
    refine ⟨Material.mem_linksOf.mp (List.mem_of_find?_eq_some hfind), ?_⟩
    rintro ⟨kind, hcaller⟩
    exact Material.relation_of_find?_linksOf hfind hcaller
  refine ⟨hwanted, fun ⟨hwants, hfirst⟩ => ?_⟩
  have hpair : (e.source, e.target) ∈ (assemble options budget m).edgePairs :=
    (mem_edgePairs_assemble hid e.source e.target).mpr ⟨_, _, hwants⟩
  obtain ⟨x, hx, hsame⟩ := List.mem_map.mp hpair
  obtain ⟨hsource, htarget⟩ := Prod.mk.inj hsame
  obtain ⟨hwants', hfirst'⟩ := hwanted hx
  rw [hsource, htarget] at hwants' hfirst'
  have hkind : x.kind = e.kind := hwants'.kind_eq hwants
  have hrelation : x.relation = e.relation := by
    cases hx : x.relation with
    | caller => exact (hfirst ⟨_, hx ▸ hwants'⟩).symm
    | callee =>
      cases he : e.relation with
      | caller =>
        have hcaller := hfirst' ⟨_, he ▸ hwants⟩
        rw [hx] at hcaller
        contradiction
      | callee => rfl
  have hxe : x = e := by
    cases x
    cases e
    simp_all
  exact hxe ▸ hx

end Edges

namespace Material

variable {m m' : Material} {options : Options} {budget : Int}

/-- The same material, with the neighbours in any order. -/
structure Reordered (m m' : Material) : Prop where
  focal : m.focal = m'.focal
  neighbors : m.neighbors.Perm m'.neighbors
  rows : ∀ side, m.rows side = m'.rows side

/-- Neighbours of one id are told apart by direction and depth at most. -/
def Consistent (m : Material) : Prop :=
  ∀ a ∈ m.neighbors, ∀ b ∈ m.neighbors, a.id = b.id → a.toFunctionNode = b.toFunctionNode

theorem mem_neighbors_of_mem_direct {d : TraversalNode} (hd : d ∈ m.direct options) :
    d ∈ m.neighbors :=
  (List.mem_filter.mp (List.mem_filter.mp hd).1).1

namespace Reordered

theorem symm (h : m.Reordered m') : m'.Reordered m where
  focal := h.focal.symm
  neighbors := h.neighbors.symm
  rows side := (h.rows side).symm

theorem direct_perm (h : m.Reordered m') (options : Options) :
    (m.direct options).Perm (m'.direct options) := by
  unfold direct kept
  rw [h.focal]
  exact (h.neighbors.filter _).filter _

theorem mem_directIds_iff (h : m.Reordered m') {id : String} :
    id ∈ m.directIds options ↔ id ∈ m'.directIds options := by
  simp only [mem_directIds, (h.direct_perm options).mem_iff]

theorem length_directIds (h : m.Reordered m') (options : Options) :
    (m.directIds options).length = (m'.directIds options).length := by
  have hnodup (m : Material) : (m.directIds options).Nodup :=
    (FirstOccurrences.eraseDups _).nodup
  refine ((List.perm_ext_iff_of_nodup (hnodup m) (hnodup m')).mpr fun id => ?_).length_eq
  exact h.mem_directIds_iff

theorem pool_eq (h : m.Reordered m') (options : Options) (side : Direction) :
    m.pool options side = m'.pool options side := by
  have hexcluded (id : String) :
      (m.excluded options).contains id = (m'.excluded options).contains id := by
    simp [excluded, h.focal, h.mem_directIds_iff]
  unfold pool Graph.pool
  simp only [hexcluded, h.rows]

theorem selection_eq (h : m.Reordered m') (options : Options) (budget : Int) :
    m.selection options budget = m'.selection options budget := by
  unfold selection
  rw [h.focal, h.length_directIds, h.pool_eq, h.pool_eq]

theorem wants (h : m.Reordered m') {side : Direction} {kind : EdgeKind} {source target : String}
    (hwants : m.Wants options budget side kind source target) :
    m'.Wants options budget side kind source target := by
  have hdirect {d : TraversalNode} (hd : d ∈ m.direct options) : d ∈ m'.direct options :=
    (h.direct_perm options).mem_iff.mp hd
  have hhangs {side : Direction} {n : TraversalNode} {near : String}
      (hnear : m.HangsOff options budget side n near) :
      m'.HangsOff options budget side n near := by
    unfold HangsOff InLayer at hnear ⊢
    simpa only [← h.selection_eq, ← h.focal, (h.direct_perm options).mem_iff] using hnear
  cases hwants with
  | directCaller hd hside => exact h.focal ▸ .directCaller (hdirect hd) hside
  | directCallee hd hside => exact h.focal ▸ .directCallee (hdirect hd) hside
  | caller hn hnear => exact .caller (h.selection_eq options budget ▸ hn) (hhangs hnear)
  | callee hn hnear => exact .callee (h.selection_eq options budget ▸ hn) (hhangs hnear)

theorem wants_iff (h : m.Reordered m') {side : Direction} {kind : EdgeKind}
    {source target : String} :
    m.Wants options budget side kind source target ↔
      m'.Wants options budget side kind source target :=
  ⟨h.wants, h.symm.wants⟩

theorem adjoins_iff (h : m.Reordered m') {side : Direction} {id : String} :
    m.Adjoins options side id ↔ m'.Adjoins options side id := by
  simp only [Adjoins, (h.direct_perm options).mem_iff]

theorem shows (h : m.Reordered m') (hrows : m.Consistent) {n : Node}
    (hn : m.Shows options budget n) : m'.Shows options budget n := by
  cases hn with
  | focal hdata hdepth htags => exact .focal (h.focal ▸ hdata) hdepth htags
  | @direct before after d hd hlast hdata hdepth htags =>
    have hmem : d ∈ m.direct options := by simp [hd]
    have hid : d.id ∈ (m'.direct options).map (·.id) :=
      List.mem_map_of_mem ((h.direct_perm options).mem_iff.mp hmem)
    obtain ⟨before', d', after', hd', hsame, hlast'⟩ := Keys.exists_last hid
    have hmem' : d' ∈ m.direct options :=
      (h.direct_perm options).mem_iff.mpr (by simp [hd'])
    have hrow : d'.toFunctionNode = d.toFunctionNode :=
      hrows d' (mem_neighbors_of_mem_direct hmem') d (mem_neighbors_of_mem_direct hmem) hsame
    refine .direct hd' (hsame ▸ hlast') (hrow ▸ hdata) hdepth fun tag => ?_
    rw [htags, hsame]
    simp only [h.adjoins_iff]
  | selected hn hside hdata hdepth htags =>
    have hselects (side : Direction) (id : String) :
        m.Selects options budget side id ↔ m'.Selects options budget side id := by
      simp only [Selects, h.selection_eq]
    rw [h.selection_eq] at hn
    simp only [hselects] at hside htags
    exact .selected hn hside hdata hdepth htags

end Reordered
end Material

section Assemble

variable {m m' : Material} (options : Options) (budget : Int)

theorem assemble_eq_of_sameOffer (h : m.Typed) (h' : m'.Typed) (hfocal : m.focal = m'.focal)
    (hneighbors : m.neighbors = m'.neighbors)
    (hoffer : ∀ side, SameOffer (m.eligible options side) (m'.eligible options side)) :
    assemble options budget m = assemble options budget m' := by
  have hdirect : m.direct options = m'.direct options := by
    unfold Material.direct
    rw [hfocal, hneighbors]
  have hcount : (m'.directIds options).length = (m.directIds options).length := by
    unfold Material.directIds
    rw [hdirect]
  have hselection := Material.selection_eq_of_perm h h' hfocal.symm hcount
    (fun side => Material.pool_perm_of_sameOffer (hoffer side)) budget
  unfold assemble
  rw [hfocal, hdirect, hselection]

theorem mem_nodes_of_reordered (hid : m.focal.id ≠ "") (h : m.Reordered m')
    (hrows : m.Consistent) (n : Node) :
    n ∈ (assemble options budget m).nodes ↔ n ∈ (assemble options budget m').nodes := by
  have hrows' : m'.Consistent := fun a ha b hb =>
    hrows a (h.neighbors.mem_iff.mpr ha) b (h.neighbors.mem_iff.mpr hb)
  rw [mem_nodes_assemble hid, mem_nodes_assemble (h.focal ▸ hid)]
  exact ⟨h.shows hrows, h.symm.shows hrows'⟩

theorem node?_of_reordered (hid : m.focal.id ≠ "") (h : m.Reordered m') (hrows : m.Consistent)
    (id : String) :
    (assemble options budget m).node? id = (assemble options budget m').node? id :=
  Keys.find?_congr (nodup_ids_assemble hid) (nodup_ids_assemble (h.focal ▸ hid))
    (mem_nodes_of_reordered options budget hid h hrows) id

theorem mem_edges_of_reordered (hid : m.focal.id ≠ "") (h : m.Reordered m') (e : Edge) :
    e ∈ (assemble options budget m).edges ↔ e ∈ (assemble options budget m').edges := by
  rw [mem_edges_assemble hid, mem_edges_assemble (h.focal ▸ hid)]
  simp only [h.wants_iff]

end Assemble

/-- Callers and callees that make the same offer, in any order and among any other rows, make the
same graph. Neighbours in another order make a graph with the same nodes and the same edges. -/
theorem assemble_regardless_of_row_order (options : Options) (budget : Int) (m m' : Material)
    (hmark : options.markFault = none) (h : m.Typed) (h' : m'.Typed) :
    (m.focal = m'.focal → m.neighbors = m'.neighbors →
      (∀ side, SameOffer (m.eligible options side) (m'.eligible options side)) →
      ∃ g, assemble? options (.whole budget) m = .ok g ∧
        assemble? options (.whole budget) m' = .ok g) ∧
    (m.Reordered m' → m.Consistent →
      ∃ g g', assemble? options (.whole budget) m = .ok g ∧
        assemble? options (.whole budget) m' = .ok g' ∧
        (∀ id, g.node? id = g'.node? id) ∧ ∀ e, e ∈ g.edges ↔ e ∈ g'.edges) := by
  constructor
  · intro hfocal hneighbors hoffer
    have hsame := assemble_eq_of_sameOffer options budget h h' hfocal hneighbors hoffer
    exact ⟨_, assemble?_eq_ok hmark h, hsame ▸ assemble?_eq_ok hmark h'⟩
  · intro hreordered hrows
    refine ⟨_, _, assemble?_eq_ok hmark h, assemble?_eq_ok hmark h', ?_⟩
    by_cases hid : m.focal.id = ""
    · have hid' : m'.focal.id = "" := hreordered.focal ▸ hid
      simp [assemble, hid, hid']
    · exact ⟨node?_of_reordered options budget hid hreordered hrows,
        mem_edges_of_reordered options budget hid hreordered⟩

/-- The crowded material with its callers in another order, among rows that add nothing: deeper and
repeated ones, one without an id, one of another language, the neighbour and the focal function. -/
def Material.noisy : Material :=
  { crowded with
    callers := [{ id := "b", direction := some .callee }, { id := "a", depth := 4 }, { id := "" },
      { id := "z", file := .text "z.py" }, { id := "d", depth := 3 }, { id := "f" },
      { id := "a", depth := 2 }, { id := "a", depth := 2 }] }

def Material.turned : Material :=
  { crowded with neighbors := crowded.neighbors.reverse }

theorem Material.noisy_sameOffer (side : Direction) :
    SameOffer (crowded.eligible {} side) (noisy.eligible {} side) := by
  cases side with
  | callee =>
    have hrows : crowded.eligible {} .callee =
        [{ id := "x", depth := 0 }, { id := "y", depth := 2 }] := rfl
    have hrows' : noisy.eligible {} .callee = crowded.eligible {} .callee := rfl
    rw [hrows', hrows]
    refine .of_table [{ id := "x", depth := 0 }, { id := "y", depth := 2 }] (by decide)
      (fun _ => Iff.rfl) ?_
    rintro n (⟨hn, -⟩ | ⟨hn, -⟩)
    · exact ⟨n, hn, rfl, rfl⟩
    · exact ⟨n, hn, rfl, rfl⟩
  | caller =>
    have hrows : crowded.eligible {} .caller =
        [{ id := "a", depth := 2 }, { id := "b", depth := 1 }, { id := "a", depth := 3 }] := rfl
    have hrows' : noisy.eligible {} .caller =
        [{ id := "b", direction := some .callee }, { id := "a", depth := 4 },
          { id := "a", depth := 2 }, { id := "a", depth := 2 }] := rfl
    rw [hrows, hrows']
    refine .of_table [{ id := "a", depth := 2 }, { id := "b", depth := 1 }] (by decide)
      (fun id => ?_) ?_
    · simp only [List.map_cons, List.map_nil, List.mem_cons, List.not_mem_nil]
      tauto
    · rintro n (⟨hn, hle⟩ | ⟨hn, hle⟩) <;>
        simp only [List.mem_cons, List.not_mem_nil, or_false, forall_eq_or_imp, forall_eq] at hn hle
      · rcases hn with rfl | rfl | rfl <;> simp_all
      · rcases hn with rfl | rfl | rfl | rfl <;> simp_all

theorem assemble_regardless_of_row_order_of_noisy :
    (∃ g, assemble? {} (.whole 5) .crowded = .ok g ∧ assemble? {} (.whole 5) .noisy = .ok g) ∧
    ∃ g g', assemble? {} (.whole 5) .crowded = .ok g ∧
      assemble? {} (.whole 5) .turned = .ok g' ∧ g.node? "d" = g'.node? "d" := by
  have hnoisy : Material.noisy.Typed :=
    ⟨by simp [Material.noisy, Material.crowded], by simp [Material.noisy, Material.crowded]⟩
  have hturned : Material.turned.Typed :=
    ⟨by simp [Material.turned, Material.crowded], by simp [Material.turned, Material.crowded]⟩
  constructor
  · exact (assemble_regardless_of_row_order {} 5 .crowded .noisy rfl Material.crowded_typed
      hnoisy).1 rfl rfl Material.noisy_sameOffer
  · have hconsistent : Material.crowded.Consistent := by
      simp [Material.Consistent, Material.crowded]
    have hreordered : Material.crowded.Reordered .turned :=
      ⟨rfl, (List.reverse_perm _).symm, fun side => by cases side <;> rfl⟩
    obtain ⟨g, g', hg, hg', hnodes, -⟩ := (assemble_regardless_of_row_order {} 5 .crowded .turned
      rfl Material.crowded_typed hturned).2 hreordered hconsistent
    exact ⟨g, g', hg, hg', hnodes "d"⟩

end CallAtlas.Graph
