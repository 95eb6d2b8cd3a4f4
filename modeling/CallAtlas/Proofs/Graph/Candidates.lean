import CallAtlas.Proofs.Graph.Growth
import CallAtlas.Proofs.Occurrences

/-! Which rows become candidates. Of several rows of one id the first of the smallest depth stands
for all, so the candidates are known from the nearest rows, in whatever order and among whichever
others the rows come; and a selection is known from its candidates. -/
namespace CallAtlas.Graph

def nearer : Option TraversalNode → TraversalNode → Option TraversalNode
  | none, n => some n
  | some m, n => some (if n.depth < m.depth then n else m)

theorem find?_keepShallowest (ms : List TraversalNode) (n : TraversalNode) (id : String) :
    (keepShallowest ms n).find? (·.id == id) =
      if n.id = id then nearer (ms.find? (·.id == id)) n else ms.find? (·.id == id) := by
  induction ms with
  | nil =>
    by_cases h : n.id = id
    · simp [keepShallowest, nearer, h]
    · simp [keepShallowest, h]
  | cons m ms ih =>
    by_cases hm : m.id = n.id
    · have hkept : (if n.depth < m.depth then n else m).id = n.id := by
        split
        · rfl
        · exact hm
      by_cases h : n.id = id
      · simp [keepShallowest, hm, h, nearer, hkept]
      · simp [keepShallowest, hm, h, hkept]
    · rw [keepShallowest, if_neg hm]
      by_cases h : m.id = id
      · have hn : n.id ≠ id := fun hn => hm (h.trans hn.symm)
        rw [List.find?_cons_of_pos (by simpa using h), List.find?_cons_of_pos (by simpa using h),
          if_neg hn]
      · rw [List.find?_cons_of_neg (by simpa using h), List.find?_cons_of_neg (by simpa using h),
          ih]

theorem find?_foldl_keepShallowest (rows ms : List TraversalNode) (id : String) :
    (rows.foldl keepShallowest ms).find? (·.id == id) =
      (rows.filter (·.id == id)).foldl nearer (ms.find? (·.id == id)) := by
  induction rows generalizing ms with
  | nil => rfl
  | cons n rows ih =>
    rw [List.foldl_cons, ih, find?_keepShallowest]
    by_cases h : n.id = id
    · rw [if_pos h, List.filter_cons_of_pos (by simpa using h), List.foldl_cons]
    · rw [if_neg h, List.filter_cons_of_neg (by simpa using h)]

theorem exists_of_foldl_nearer {rows : List TraversalNode} {m n : TraversalNode}
    (h : rows.foldl nearer (some m) = some n) :
    ∃ before after, m :: rows = before ++ n :: after ∧ (∀ x ∈ before, n.depth < x.depth) ∧
      ∀ x ∈ after, n.depth ≤ x.depth := by
  induction rows generalizing m with
  | nil =>
    obtain rfl := Option.some.inj h
    exact ⟨[], [], rfl, by simp, by simp⟩
  | cons r rows ih =>
    by_cases hr : r.depth < m.depth
    · rw [List.foldl_cons, nearer, if_pos hr] at h
      obtain ⟨before, after, hrows, hbefore, hafter⟩ := ih h
      have hle : n.depth ≤ r.depth := by
        cases before with
        | nil => exact Int.le_of_eq (congrArg _ (List.cons.inj hrows).1.symm)
        | cons x before => exact (List.cons.inj hrows).1 ▸ (hbefore x List.mem_cons_self).le
      refine ⟨m :: before, after, by rw [hrows, List.cons_append], ?_, hafter⟩
      exact List.forall_mem_cons.mpr ⟨by omega, hbefore⟩
    · rw [List.foldl_cons, nearer, if_neg hr] at h
      obtain ⟨before, after, hrows, hbefore, hafter⟩ := ih h
      cases before with
      | nil =>
        obtain ⟨rfl, rfl⟩ := List.cons.inj hrows
        exact ⟨[], r :: rows, rfl, by simp, List.forall_mem_cons.mpr ⟨by omega, hafter⟩⟩
      | cons x before =>
        obtain ⟨rfl, rfl⟩ := List.cons.inj hrows
        obtain ⟨hm, hbefore⟩ := List.forall_mem_cons.mp hbefore
        refine ⟨m :: r :: before, after, rfl, ?_, hafter⟩
        exact List.forall_mem_cons.mpr ⟨hm, List.forall_mem_cons.mpr ⟨by omega, hbefore⟩⟩

/-- The first of the rows of smallest depth that an id has: those of the id before it are deeper,
and none behind it is nearer. -/
def IsFirstNearest (rows : List TraversalNode) (n : TraversalNode) : Prop :=
  ∃ before after, rows.filter (·.id == n.id) = before ++ n :: after ∧
    (∀ x ∈ before, n.depth < x.depth) ∧ ∀ x ∈ after, n.depth ≤ x.depth

theorem isFirstNearest_of_mem_shallowest {rows : List TraversalNode} {n : TraversalNode}
    (hn : n ∈ shallowest rows) : IsFirstNearest rows n := by
  have hfound := Keys.find?_of_mem (nodup_ids_shallowest rows) hn
  rw [shallowest, find?_foldl_keepShallowest, List.find?_nil] at hfound
  unfold IsFirstNearest
  cases hrows : rows.filter (·.id == n.id) with
  | nil =>
    rw [hrows] at hfound
    contradiction
  | cons r rest =>
    rw [hrows] at hfound
    exact exists_of_foldl_nearer hfound

def IsNearest (rows : List TraversalNode) (n : TraversalNode) : Prop :=
  n ∈ rows ∧ ∀ x ∈ rows, x.id = n.id → n.depth ≤ x.depth

theorem isNearest_of_mem_shallowest {rows : List TraversalNode} {n : TraversalNode}
    (hn : n ∈ shallowest rows) : IsNearest rows n := by
  obtain ⟨before, after, hrows, hbefore, hafter⟩ := isFirstNearest_of_mem_shallowest hn
  refine ⟨mem_of_mem_shallowest hn, fun x hx hid => ?_⟩
  have hx' : x ∈ rows.filter (·.id == n.id) := List.mem_filter.mpr ⟨hx, by simpa using hid⟩
  rw [hrows, List.mem_append, List.mem_cons] at hx'
  rcases hx' with hx' | rfl | hx'
  · exact (hbefore x hx').le
  · exact Int.le_refl _
  · exact hafter x hx'

theorem firstOccurrences_shallowest (rows : List TraversalNode) :
    FirstOccurrences (rows.map (·.id)) ((shallowest rows).map (·.id)) := by
  induction rows using List.reverseRecOn with
  | nil => exact .nil
  | append_singleton rows n ih =>
    rw [shallowest, List.foldl_concat, ids_keepShallowest, List.map_append]
    exact ih.concat n.id

theorem mem_ids_shallowest {rows : List TraversalNode} {id : String} :
    id ∈ (shallowest rows).map (·.id) ↔ id ∈ rows.map (·.id) :=
  (firstOccurrences_shallowest rows).mem_iff id

/-- A pool has one node for each id that is not excluded, in the order in which these ids first
occur: the first of the nearest rows of the id, put on the side of the pool. -/
theorem pool_of_first_nearest (side : Direction) (excluded : List String)
    (rows : List TraversalNode) :
    FirstOccurrences ((rows.map (·.id)).filter fun id => !excluded.contains id)
        ((pool side excluded rows).map (·.id)) ∧
      ∀ p ∈ pool side excluded rows,
        ∃ n, IsFirstNearest rows n ∧ p = { n with direction := some side } := by
  rw [pool_eq]
  constructor
  · rw [List.map_map, List.filter_map]
    exact firstOccurrences_shallowest _
  · intro p hp
    obtain ⟨n, hn, rfl⟩ := List.mem_map.mp hp
    refine ⟨n, ?_, rfl⟩
    -- No row of an id is excluded where another is not.
    have hkept := (List.mem_filter.mp (mem_of_mem_shallowest hn)).2
    have hrows : (rows.filter fun n => !excluded.contains n.id).filter (·.id == n.id) =
        rows.filter (·.id == n.id) := by
      rw [List.filter_filter]
      refine List.filter_congr fun x _ => ?_
      by_cases hid : x.id = n.id
      · rw [hid, hkept, Bool.and_true]
      · simp [hid]
    have hfirst := isFirstNearest_of_mem_shallowest hn
    rwa [IsFirstNearest, hrows] at hfirst

/-- Two lists of rows make the same offer: the same ids, each equally near, and the same to be said
of it wherever it is nearest. Only the side that a row names may differ. -/
structure SameOffer (rows rows' : List TraversalNode) : Prop where
  ids : ∀ id, id ∈ rows.map (·.id) ↔ id ∈ rows'.map (·.id)
  depth : ∀ n x, IsNearest rows n → IsNearest rows' x → n.id = x.id → n.depth = x.depth
  data : ∀ n x, IsNearest rows n ∨ IsNearest rows' n → IsNearest rows x ∨ IsNearest rows' x →
    n.id = x.id → n.toFunctionNode = x.toFunctionNode

namespace SameOffer

variable {rows rows' : List TraversalNode}

theorem symm (h : SameOffer rows rows') : SameOffer rows' rows where
  ids id := (h.ids id).symm
  depth n x hn hx hid := (h.depth x n hx hn hid.symm).symm
  data n x hn hx hid := h.data n x hn.symm hx.symm hid

theorem exists_same (h : SameOffer rows rows') {n : TraversalNode} (hn : n ∈ shallowest rows) :
    ∃ x ∈ shallowest rows', n.toFunctionNode = x.toFunctionNode ∧ n.depth = x.depth := by
  have hid : n.id ∈ (shallowest rows').map (·.id) := by
    rw [mem_ids_shallowest, ← h.ids]
    exact List.mem_map_of_mem (mem_of_mem_shallowest hn)
  obtain ⟨x, hx, hxn⟩ := List.mem_map.mp hid
  have hn' := isNearest_of_mem_shallowest hn
  have hx' := isNearest_of_mem_shallowest hx
  exact ⟨x, hx, h.data n x (.inl hn') (.inr hx') hxn.symm, h.depth n x hn' hx' hxn.symm⟩

theorem of_table (table : List TraversalNode) (htable : (table.map (·.id)).Nodup)
    (hids : ∀ id, id ∈ rows.map (·.id) ↔ id ∈ rows'.map (·.id))
    (hnear : ∀ n, IsNearest rows n ∨ IsNearest rows' n →
      ∃ t ∈ table, n.toFunctionNode = t.toFunctionNode ∧ n.depth = t.depth) :
    SameOffer rows rows' := by
  have hagree {n x : TraversalNode} (hn : IsNearest rows n ∨ IsNearest rows' n)
      (hx : IsNearest rows x ∨ IsNearest rows' x) (hid : n.id = x.id) :
      n.toFunctionNode = x.toFunctionNode ∧ n.depth = x.depth := by
    obtain ⟨t, ht, hdata, hdepth⟩ := hnear n hn
    obtain ⟨u, hu, hdata', hdepth'⟩ := hnear x hx
    have htu : t = u := List.inj_on_of_nodup_map htable ht hu (by rw [← hdata, ← hdata', hid])
    rw [hdata, hdata', hdepth, hdepth', htu]
    exact ⟨rfl, rfl⟩
  exact ⟨hids, fun n x hn hx hid => (hagree (.inl hn) (.inr hx) hid).2,
    fun n x hn hx hid => (hagree hn hx hid).1⟩

end SameOffer

namespace Material

variable {m m' : Material} {options : Options} {side : Direction}

def eligible (m : Material) (options : Options) (side : Direction) : List TraversalNode :=
  (kept options.extension (m.rows side)).filter fun n => !(m.excluded options).contains n.id

theorem pool_eq_shallowest (m : Material) (options : Options) (side : Direction) :
    m.pool options side =
      (shallowest (m.eligible options side)).map fun n => { n with direction := some side } :=
  rfl

theorem pool_subset_of_sameOffer
    (h : SameOffer (m.eligible options side) (m'.eligible options side)) :
    m.pool options side ⊆ m'.pool options side := by
  intro n hn
  rw [pool_eq_shallowest, List.mem_map] at hn ⊢
  obtain ⟨x, hx, rfl⟩ := hn
  obtain ⟨y, hy, hdata, hdepth⟩ := h.exists_same hx
  exact ⟨y, hy, by rw [hdata, hdepth]⟩

theorem pool_perm_of_sameOffer
    (h : SameOffer (m.eligible options side) (m'.eligible options side)) :
    (m.pool options side).Perm (m'.pool options side) := by
  have hnodup (m : Material) : (m.pool options side).Nodup :=
    (nodup_ids_pool side (m.excluded options) _).of_map
  rw [List.perm_ext_iff_of_nodup (hnodup m) (hnodup m')]
  intro n
  constructor
  · exact fun hn => pool_subset_of_sameOffer h hn
  · exact fun hn => pool_subset_of_sameOffer h.symm hn

end Material

section Select

variable {mark : String} {focal : FunctionNode}

theorem rank_eq_of_perm {xs ys : List TraversalNode} (hnames : ∀ n ∈ xs, HasTextName n)
    (hids : (xs.map (·.id)).Nodup) (h : xs.Perm ys) : rank mark focal xs = rank mark focal ys := by
  have hnames' : ∀ n ∈ ys, HasTextName n := fun n hn => hnames n (h.mem_iff.mpr hn)
  have hperm := ((rank_perm mark focal xs).trans h).trans (rank_perm mark focal ys).symm
  refine hperm.eq_of_pairwise ?_ (ranked_rank hnames) (ranked_rank hnames')
  intro a b ha hb hab hba
  have ha' := (rank_perm mark focal xs).mem_iff.mp ha
  have hb' := h.mem_iff.mpr ((rank_perm mark focal ys).mem_iff.mp hb)
  have hkey : rankKey mark focal a = rankKey mark focal b := le_antisymm hab hba
  have hid : a.id = b.id := by
    simp only [rankKey, EmbeddingLike.apply_eq_iff_eq, Prod.mk.injEq] at hkey
    exact hkey.2.2
  exact List.inj_on_of_nodup_map hids ha' hb' hid

end Select

namespace Material

variable {m m' : Material} {options : Options}

theorem selection_eq_of_perm (h : m.Typed) (h' : m'.Typed) (hfocal : m'.focal = m.focal)
    (hdirect : (m'.directIds options).length = (m.directIds options).length)
    (hpool : ∀ side, (m.pool options side).Perm (m'.pool options side)) (budget : Int) :
    m.selection options budget = m'.selection options budget := by
  have hrank (side : Direction) : rank options.externalMark m.focal (m.pool options side) =
      rank options.externalMark m.focal (m'.pool options side) :=
    rank_eq_of_perm (h.pool side) (nodup_ids_pool _ _ _) (hpool side)
  have htaken (m : Material) (h : m.Typed) : m.selection options budget = _ :=
    select_eq_take (h.lieOn options .caller) (h.lieOn options .callee) budget
      (m.directIds options).length
  rw [htaken m h, htaken m' h', hfocal, hdirect, hrank, hrank, (hpool .caller).length_eq,
    (hpool .callee).length_eq]

end Material
end CallAtlas.Graph
