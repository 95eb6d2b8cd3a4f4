import CallAtlas.Proofs.Graph.Members
import CallAtlas.Proofs.Graph.Typed

/-! What an assembled graph says of each of its nodes: whose data and which depth it shows, and how
the node is tagged. The focal function speaks for itself, a neighbour through the last row kept of
it, and a selected node through the callees before the callers. -/
namespace CallAtlas

def Tag.IsLayer (tag : Tag) : Prop :=
  tag = .focus ∨ tag = .direct ∨ tag = .transitive

theorem Tags.existsUnique_layer {tags : Tags} {layer : Tag} (hlayer : layer.IsLayer)
    (hhas : tags.has layer = true)
    (honly : ∀ tag, tags.has tag = true → tag = layer ∨ ∃ side, tag = .ofDirection side) :
    ∃! tag : Tag, tag.IsLayer ∧ tags.has tag = true := by
  refine ⟨layer, ⟨hlayer, hhas⟩, ?_⟩
  rintro tag ⟨htag, hhas'⟩
  rcases honly tag hhas' with hsame | ⟨side, rfl⟩
  · exact hsame
  · cases side <;> simp [Tag.IsLayer, Tag.ofDirection] at htag

namespace Graph
namespace Material

variable (m : Material) (options : Options) (budget : Int)

def Adjoins (side : Direction) (id : String) : Prop :=
  ∃ d ∈ m.direct options, d.id = id ∧ d.direction = some side

def Selects (side : Direction) (id : String) : Prop :=
  ∃ n ∈ (m.selection options budget).side side, n.id = id

/-- A node as it is to be shown, with all that is to be said of it. -/
inductive Shows (n : Node) : Prop
  | focal (hdata : n.Describes m.focal) (hdepth : n.depth = 0)
    (htags : ∀ tag, n.tags.has tag = true ↔ tag = .focus)
  | direct {before after : List TraversalNode} {d : TraversalNode}
    (hrows : m.direct options = before ++ d :: after) (hlast : ∀ x ∈ after, x.id ≠ d.id)
    (hdata : n.Describes d.toFunctionNode) (hdepth : n.depth = 1)
    (htags : ∀ tag, n.tags.has tag = true ↔
      tag = .direct ∨ ∃ side, tag = .ofDirection side ∧ m.Adjoins options side d.id)
  | selected {side : Direction} {row : TraversalNode}
    (hrow : row ∈ (m.selection options budget).side side)
    (hside : side = .callee ∨ ¬m.Selects options budget .callee row.id)
    (hdata : n.Describes row.toFunctionNode) (hdepth : n.depth = row.depth)
    (htags : ∀ tag, n.tags.has tag = true ↔
      tag = .transitive ∨ ∃ side, tag = .ofDirection side ∧ m.Selects options budget side row.id)

variable {m options budget} {side : Direction} {id : String}

theorem Selects.ne_focal (h : m.Selects options budget side id) : id ≠ m.focal.id := by
  obtain ⟨n, hn, rfl⟩ := h
  exact id_ne_focal_of_selected hn

theorem Selects.not_direct (h : m.Selects options budget side id) : id ∉ m.directIds options := by
  obtain ⟨n, hn, rfl⟩ := h
  exact id_not_direct_of_selected hn

theorem Shows.id_mem {n : Node} (h : m.Shows options budget n) :
    n.id = m.focal.id ∨ n.id ∈ m.directIds options ∨
      ∃ side, m.Selects options budget side n.id := by
  cases h with
  | focal hdata => exact Or.inl hdata.id
  | direct hrows hlast hdata =>
    exact Or.inr (Or.inl (mem_directIds.mpr ⟨_, by simp [hrows], hdata.id.symm⟩))
  | selected hrow hside hdata => exact Or.inr (Or.inr ⟨_, _, hrow, hdata.id.symm⟩)

end Material

section NodesOf

variable {focal : FunctionNode} {direct : List TraversalNode} {chosen : Selection}

theorem node?_nodesOf_focal (focal : FunctionNode) (direct : List TraversalNode)
    (chosen : Selection) :
    ∃ tags, (nodesOf focal direct chosen).node? focal.id = some (.ofFunction focal tags 0) :=
  ⟨_, (node?_merge _ _ _ _ _).trans (if_pos rfl)⟩

theorem node?_nodesOf_callee (hnodup : (chosen.callees.map (·.id)).Nodup) {n : TraversalNode}
    (hn : n ∈ chosen.callees) (hfocal : n.id ≠ focal.id) :
    ∃ tags, (nodesOf focal direct chosen).node? n.id =
      some (.ofFunction n.toFunctionNode tags n.depth) := by
  rw [nodesOf, node?_merge, if_neg hfocal, mergeChosen_eq .callee]
  exact node?_mergeAll_of_nodup _ _ _ hnodup hn

theorem node?_nodesOf_caller (hnodup : (chosen.callers.map (·.id)).Nodup) {n : TraversalNode}
    (hn : n ∈ chosen.callers) (hfocal : n.id ≠ focal.id)
    (hcallees : ∀ x ∈ chosen.callees, x.id ≠ n.id) :
    ∃ tags, (nodesOf focal direct chosen).node? n.id =
      some (.ofFunction n.toFunctionNode tags n.depth) := by
  rw [nodesOf, node?_merge, if_neg hfocal, mergeChosen_eq .callee,
    node?_mergeAll_of_not_mem _ _ _ hcallees, mergeChosen_eq .caller]
  exact node?_mergeAll_of_nodup _ _ _ hnodup hn

theorem node?_nodesOf_direct {before after : List TraversalNode} {d : TraversalNode}
    (hlast : ∀ x ∈ after, x.id ≠ d.id) (hfocal : d.id ≠ focal.id)
    (hchosen : ∀ side, ∀ x ∈ chosen.side side, x.id ≠ d.id) :
    ∃ tags, (nodesOf focal (before ++ d :: after) chosen).node? d.id =
      some (.ofFunction d.toFunctionNode tags 1) := by
  have hcallers : ∀ x ∈ chosen.callers, x.id ≠ d.id := hchosen .caller
  have hcallees : ∀ x ∈ chosen.callees, x.id ≠ d.id := hchosen .callee
  rw [nodesOf, node?_merge, if_neg hfocal, mergeChosen_eq .callee,
    node?_mergeAll_of_not_mem _ _ _ hcallees, mergeChosen_eq .caller,
    node?_mergeAll_of_not_mem _ _ _ hcallers, mergeDirect_eq]
  exact node?_mergeAll_of_last _ _ _ hlast

end NodesOf

section Assemble

variable {options : Options} {budget : Int} {m : Material}

theorem node?_assemble (hid : m.focal.id ≠ "") (id : String) :
    (assemble options budget m).node? id =
      (nodesOf m.focal (m.direct options) (m.selection options budget)).node? id := by
  rw [node?, nodes_assemble hid, node?]

theorem has_tagsAt_assemble (hid : m.focal.id ≠ "") (id : String) (tag : Tag) :
    ((assemble options budget m).tagsAt id).has tag = true ↔
      (id ∈ m.directIds options ∧
        (tag = .direct ∨ ∃ side, tag = .ofDirection side ∧ m.Adjoins options side id)) ∨
      (∃ side, m.Selects options budget side id ∧ (tag = .transitive ∨ tag = .ofDirection side)) ∨
      (id = m.focal.id ∧ tag = .focus) := by
  rw [tagsAt, node?_assemble hid, ← tagsAt, has_tagsAt_nodesOf]
  refine or_congr ?_ (or_congr ?_ Iff.rfl)
  · simp only [has_directTags, Material.mem_directIds]
    constructor
    · rintro ⟨d, hd, rfl, htag | ⟨side, hside, htag⟩⟩
      · exact ⟨⟨d, hd, rfl⟩, Or.inl htag⟩
      · exact ⟨⟨d, hd, rfl⟩, Or.inr ⟨side, htag, d, hd, rfl, hside⟩⟩
    · rintro ⟨⟨d, hd, rfl⟩, htag | ⟨side, htag, x, hx, hsame, hside⟩⟩
      · exact ⟨d, hd, rfl, Or.inl htag⟩
      · exact ⟨x, hx, hsame.symm, Or.inr ⟨side, hside, htag⟩⟩
  · simp only [has_transitiveTags, Material.Selects]
    constructor
    · rintro ⟨side, n, hn, rfl, htag⟩
      exact ⟨side, ⟨n, hn, rfl⟩, htag⟩
    · rintro ⟨side, ⟨n, hn, rfl⟩, htag⟩
      exact ⟨side, n, hn, rfl, htag⟩

theorem tagsAt_focal (hid : m.focal.id ≠ "") (tag : Tag) :
    ((assemble options budget m).tagsAt m.focal.id).has tag = true ↔ tag = .focus := by
  have hselected (side : Direction) : ¬m.Selects options budget side m.focal.id :=
    fun h => h.ne_focal rfl
  simp [has_tagsAt_assemble hid, Material.focal_not_mem_directIds, hselected]

theorem tagsAt_direct (hid : m.focal.id ≠ "") {id : String} (h : id ∈ m.directIds options)
    (tag : Tag) :
    ((assemble options budget m).tagsAt id).has tag = true ↔
      tag = .direct ∨ ∃ side, tag = .ofDirection side ∧ m.Adjoins options side id := by
  have hselected (side : Direction) : ¬m.Selects options budget side id :=
    fun hside => hside.not_direct h
  have hfocal : id ≠ m.focal.id := fun hsame => Material.focal_not_mem_directIds (hsame ▸ h)
  simp [has_tagsAt_assemble hid, h, hselected, hfocal]

theorem tagsAt_selected (hid : m.focal.id ≠ "") {side : Direction} {id : String}
    (h : m.Selects options budget side id) (tag : Tag) :
    ((assemble options budget m).tagsAt id).has tag = true ↔
      tag = .transitive ∨
        ∃ side, tag = .ofDirection side ∧ m.Selects options budget side id := by
  simp only [has_tagsAt_assemble hid, h.not_direct, h.ne_focal, false_and, false_or, or_false]
  constructor
  · rintro ⟨side, hside, htag | htag⟩
    · exact Or.inl htag
    · exact Or.inr ⟨side, htag, hside⟩
  · rintro (htag | ⟨side, htag, hside⟩)
    · exact ⟨side, h, Or.inl htag⟩
    · exact ⟨side, hside, Or.inr htag⟩

theorem node?_of_shows (hid : m.focal.id ≠ "") {n : Node} (h : m.Shows options budget n) :
    (assemble options budget m).node? n.id = some n := by
  -- The tags in the table are those wanted, since both are known tag by tag.
  have hsettle {f : FunctionNode} {tags : Tags} {depth : Int} (hdata : n.Describes f)
      (hdepth : n.depth = depth)
      (hfound : (assemble options budget m).node? f.id = some (.ofFunction f tags depth))
      (htags : ∀ tag, n.tags.has tag = true ↔
        ((assemble options budget m).tagsAt f.id).has tag = true) :
      (assemble options budget m).node? n.id = some n := by
    rw [tagsAt_of_node? hfound] at htags
    rw [hdata.id, hfound, hdata.eq_ofFunction, hdepth, Tags.ext_has htags]
  cases h with
  | focal hdata hdepth htags =>
    obtain ⟨tags, hfound⟩ :=
      node?_nodesOf_focal m.focal (m.direct options) (m.selection options budget)
    rw [← node?_assemble hid] at hfound
    exact hsettle hdata hdepth hfound fun tag => (htags tag).trans (tagsAt_focal hid tag).symm
  | @direct before after d hrows hlast hdata hdepth htags =>
    have hd : d.id ∈ m.directIds options := Material.mem_directIds.mpr ⟨d, by simp [hrows], rfl⟩
    have hfocal : d.id ≠ m.focal.id := fun hsame => Material.focal_not_mem_directIds (hsame ▸ hd)
    obtain ⟨tags, hfound⟩ : ∃ tags,
        (nodesOf m.focal (before ++ d :: after) (m.selection options budget)).node? d.id =
          some (.ofFunction d.toFunctionNode tags 1) :=
      node?_nodesOf_direct hlast hfocal fun side x hx hsame =>
        Material.id_not_direct_of_selected hx (hsame ▸ hd)
    rw [← hrows, ← node?_assemble hid] at hfound
    exact hsettle hdata hdepth hfound fun tag => (htags tag).trans (tagsAt_direct hid hd tag).symm
  | @selected side row hrow hside hdata hdepth htags =>
    have hfocal : row.id ≠ m.focal.id := Material.id_ne_focal_of_selected hrow
    have hnodup := m.nodup_ids_selection options budget side
    obtain ⟨tags, hfound⟩ : ∃ tags, (nodesOf m.focal (m.direct options)
        (m.selection options budget)).node? row.id =
          some (.ofFunction row.toFunctionNode tags row.depth) := by
      cases side with
      | callee => exact node?_nodesOf_callee hnodup hrow hfocal
      | caller =>
        have honly := hside.resolve_left (by simp)
        exact node?_nodesOf_caller hnodup hrow hfocal fun x hx hsame => honly ⟨x, hx, hsame⟩
    rw [← node?_assemble hid] at hfound
    exact hsettle hdata hdepth hfound fun tag =>
      (htags tag).trans (tagsAt_selected hid ⟨row, hrow, rfl⟩ tag).symm

theorem exists_shows (hid : m.focal.id ≠ "") {id : String}
    (h : id ∈ (assemble options budget m).ids) :
    ∃ n, m.Shows options budget n ∧ n.id = id := by
  rw [mem_ids_assemble hid] at h
  rcases h with hdirect | ⟨side, hside⟩ | rfl
  · obtain ⟨before, d, after, hrows, rfl, hlast⟩ := Keys.exists_last hdirect
    have hd : d.id ∈ m.directIds options := Material.mem_directIds.mpr ⟨d, by simp [hrows], rfl⟩
    refine ⟨.ofFunction d.toFunctionNode ((assemble options budget m).tagsAt d.id) 1, ?_, rfl⟩
    exact .direct hrows hlast (Node.describes_ofFunction _ _ _) rfl (tagsAt_direct hid hd)
  · obtain ⟨row, hrow, rfl⟩ := List.mem_map.mp hside
    have hselected : m.Selects options budget side row.id := ⟨row, hrow, rfl⟩
    -- A callee speaks for a node on both sides.
    obtain ⟨side', x, hx, hsame, hside'⟩ : ∃ side', ∃ x ∈ (m.selection options budget).side side',
        x.id = row.id ∧ (side' = .callee ∨ ¬m.Selects options budget .callee x.id) := by
      by_cases hcallee : m.Selects options budget .callee row.id
      · obtain ⟨x, hx, hsame⟩ := hcallee
        exact ⟨.callee, x, hx, hsame, Or.inl rfl⟩
      · exact ⟨side, row, hrow, rfl, Or.inr hcallee⟩
    refine ⟨.ofFunction x.toFunctionNode ((assemble options budget m).tagsAt x.id) x.depth, ?_,
      hsame⟩
    exact .selected hx hside' (Node.describes_ofFunction _ _ _) rfl
      (tagsAt_selected hid (hsame ▸ hselected))
  · exact ⟨.ofFunction m.focal (.ofList [.focus]) 0,
      .focal (Node.describes_ofFunction _ _ _) rfl fun tag => by simp [Node.ofFunction], rfl⟩

theorem mem_nodes_assemble (hid : m.focal.id ≠ "") {n : Node} :
    n ∈ (assemble options budget m).nodes ↔ m.Shows options budget n := by
  constructor
  · intro hn
    obtain ⟨x, hx, hsame⟩ := exists_shows hid (List.mem_map_of_mem hn)
    have hfound := Keys.find?_of_mem (nodup_ids_assemble hid) hn
    rw [← hsame] at hfound
    rw [← Option.some.inj ((node?_of_shows hid hx).symm.trans hfound)]
    exact hx
  · intro h
    exact List.mem_of_find?_eq_some (node?_of_shows hid h)

theorem Material.Shows.existsUnique_layer {n : Node} (h : m.Shows options budget n) :
    ∃! tag : Tag, tag.IsLayer ∧ n.tags.has tag = true := by
  cases h with
  | focal hdata hdepth htags =>
    exact Tags.existsUnique_layer (Or.inl rfl) ((htags _).mpr rfl)
      fun tag htag => Or.inl ((htags tag).mp htag)
  | direct hrows hlast hdata hdepth htags =>
    refine Tags.existsUnique_layer (Or.inr (Or.inl rfl)) ((htags _).mpr (Or.inl rfl)) ?_
    exact fun tag htag => ((htags tag).mp htag).imp_right (Exists.imp fun side hside => hside.1)
  | selected hrow hside hdata hdepth htags =>
    refine Tags.existsUnique_layer (Or.inr (Or.inr rfl)) ((htags _).mpr (Or.inl rfl)) ?_
    exact fun tag htag => ((htags tag).mp htag).imp_right (Exists.imp fun side hside => hside.1)

end Assemble

/-- The table of a graph: the focal function, the neighbours kept and what is selected on either
side, each id once and each node as it is to be shown. -/
theorem nodes_as_shown (options : Options) (budget : Int) (m : Material) (hid : m.focal.id ≠ "") :
    (options.markFault = none → m.Typed →
      ∃ g, assemble? options (.whole budget) m = .ok g) ∧
    ∀ g, assemble? options (.whole budget) m = .ok g →
      (∀ id, id ∈ g.ids ↔ id = m.focal.id ∨ id ∈ m.directIds options ∨
        ∃ side, m.Selects options budget side id) ∧
      g.ids.Nodup ∧
      (∀ n, n ∈ g.nodes ↔ m.Shows options budget n) ∧
      ∀ n ∈ g.nodes, ∃! tag : Tag, tag.IsLayer ∧ n.tags.has tag = true := by
  refine ⟨fun hmark htyped => ⟨_, assemble?_eq_ok hmark htyped⟩, fun g hg => ?_⟩
  obtain rfl := eq_assemble_of_assemble?_eq_ok hg
  refine ⟨fun id => ⟨fun hmem => ?_, fun hmem => ?_⟩, nodup_ids_assemble hid,
    fun n => mem_nodes_assemble hid,
    fun n hn => ((mem_nodes_assemble hid).mp hn).existsUnique_layer⟩
  · obtain ⟨n, hn, rfl⟩ := exists_shows hid hmem
    exact hn.id_mem
  · rw [mem_ids_assemble hid]
    rcases hmem with hfocal | hdirect | ⟨side, n, hn, rfl⟩
    · exact Or.inr (Or.inr hfocal)
    · exact Or.inl (by simpa using Material.mem_directIds.mp hdirect)
    · exact Or.inr (Or.inl ⟨side, List.mem_map_of_mem hn⟩)

/-- Material that tells two things of a neighbour, and has a function on both sides. -/
def Material.telling : Material where
  focal := { id := "f", name := .text "Fold", file := .text "fold.go", line := .int 3 }
  neighbors := [
    { id := "d", name := .text "Dial", file := .text "old.go", direction := some .caller },
    { id := "d", name := .text "Dial", file := .text "dial.go", line := .int 7, endLine := .int 9,
      package := .text "net", direction := some .callee }]
  callers := [{ id := "s", name := .text "Sum", file := .text "caller.go", depth := 3 }]
  callees := [{ id := "s", name := .text "Sum", file := .text "callee.go", depth := 2 }]

theorem Material.selects_telling (side : Direction) :
    telling.Selects {} 9 side "s" := by
  have hpool : "s" ∈ (telling.pool {} side).map (·.id) := by
    cases side <;> decide
  obtain ⟨row, hrow, hid⟩ := List.mem_map.mp hpool
  exact ⟨row, mem_selection_of_fits (by decide) (by decide) hrow, hid⟩

theorem nodes_as_shown_of_telling :
    ∃ g, assemble? {} (.whole 9) .telling = .ok g ∧
      { id := "f", name := .text "Fold", file := .text "fold.go", line := .int 3, endLine := .null,
        package := .null, depth := 0, tags := .ofList [.focus] } ∈ g.nodes ∧
      { id := "d", name := .text "Dial", file := .text "dial.go", line := .int 7,
        endLine := .int 9, package := .text "net", depth := 1,
        tags := .ofList [.direct, .caller, .callee] } ∈ g.nodes ∧
      { id := "s", name := .text "Sum", file := .text "callee.go", line := .null,
        endLine := .null, package := .null, depth := 2,
        tags := .ofList [.transitive, .caller, .callee] } ∈ g.nodes := by
  obtain ⟨hok, hall⟩ := nodes_as_shown {} 9 .telling (by decide)
  have htyped : Material.telling.Typed := by
    constructor <;> simp [Material.telling]
  obtain ⟨g, hg⟩ := hok rfl htyped
  obtain ⟨-, -, hnodes, -⟩ := hall g hg
  have hrows : Material.telling.direct {} =
      [{ id := "d", name := .text "Dial", file := .text "old.go", direction := some .caller }] ++
        { id := "d", name := .text "Dial", file := .text "dial.go", line := .int 7,
          endLine := .int 9, package := .text "net", direction := some .callee } :: [] := rfl
  have hrow :
      { id := "s", name := .text "Sum", file := .text "callee.go", direction := some .callee,
        depth := 2 } ∈ (Material.telling.selection {} 9).side .callee :=
    Material.mem_selection_of_fits (by decide) (by decide) List.mem_cons_self
  refine ⟨g, hg, (hnodes _).mpr (.focal ⟨rfl, rfl, rfl, rfl, rfl, rfl⟩ rfl fun tag => ?_),
    (hnodes _).mpr (.direct hrows (by simp) ⟨rfl, rfl, rfl, rfl, rfl, rfl⟩ rfl fun tag => ?_),
    (hnodes _).mpr (.selected hrow (Or.inl rfl) ⟨rfl, rfl, rfl, rfl, rfl, rfl⟩ rfl fun tag => ?_)⟩
  · cases tag <;> simp
  · simp only [Direction.exists_iff, Material.Adjoins, hrows]
    cases tag <;> simp [Tag.ofDirection]
  · simp only [Direction.exists_iff, Material.selects_telling]
    cases tag <;> simp [Tag.ofDirection]

end Graph
end CallAtlas
