import CallAtlas.Explorer.Step
import CallAtlas.Proofs.Sorting
import Mathlib.Data.List.Forall2

/-! What the answers to a load say, field by field: the functions that rows tell of, the graph that
they are assembled to, and the file that two answers make. -/
namespace CallAtlas

/-- An id that a row carries under either of two names; without one it is empty. -/
inductive IsIdOf (row : Fields) : String → Prop
  | first (h : row.get "function_id" ≠ .null) : IsIdOf row (row.get "function_id").shown
  | second (h : row.get "function_id" = .null) (hid : row.get "id" ≠ .null) :
    IsIdOf row (row.get "id").shown
  | neither (h : row.get "function_id" = .null) (hid : row.get "id" = .null) : IsIdOf row ""

structure FunctionNode.Reads (n : FunctionNode) (row : Fields) : Prop where
  id : IsIdOf row n.id
  name : n.name = (row.get "name").orElse (.text "")
  file : n.file = (row.get "file").orElse .null
  line : n.line = row.get "line"
  endLine : n.endLine = row.get "end_line"
  package : n.package = row.get "package"
  parent : n.parent = row.get "parent_function"

/-- The side that a row names, or the one given where it names none of the two. -/
inductive IsDirectionOf (otherwise : Option Direction) (row : Fields) : Option Direction → Prop
  | caller (h : row.get "direction" = .text "caller") : IsDirectionOf otherwise row (some .caller)
  | callee (h : row.get "direction" = .text "callee") : IsDirectionOf otherwise row (some .callee)
  | other (h : row.get "direction" ≠ .text "caller") (h' : row.get "direction" ≠ .text "callee") :
    IsDirectionOf otherwise row otherwise

inductive IsDepthOf (row : Fields) : Int → Prop
  | near (h : row.get "depth" = .null) : IsDepthOf row 1
  | given {n : Int} (h : row.get "depth" ≠ .null)
    (hn : TraversalNode.wholeNumber (row.get "depth") = .ok n) : IsDepthOf row n

structure TraversalNode.Reads (otherwise : Option Direction) (row : Fields) (n : TraversalNode) :
    Prop where
  function : n.toFunctionNode.Reads row
  direction : IsDirectionOf otherwise row n.direction
  depth : IsDepthOf row n.depth

theorem Json.isNull_iff {v : Json} : v.isNull = true ↔ v = .null := by
  cases v <;> simp [isNull]

theorem isIdOf_iff {row : Fields} {id : String} : IsIdOf row id ↔ id = FunctionNode.idOf row := by
  constructor
  · rintro (h | ⟨h, hid⟩ | ⟨h, hid⟩)
    · simp [FunctionNode.idOf, mt Json.isNull_iff.mp h]
    · simp [FunctionNode.idOf, Json.isNull_iff.mpr h, mt Json.isNull_iff.mp hid]
    · simp [FunctionNode.idOf, Json.isNull_iff.mpr h, Json.isNull_iff.mpr hid]
  · rintro rfl
    by_cases h : row.get "function_id" = .null
    · by_cases hid : row.get "id" = .null
      · simpa [FunctionNode.idOf, h, hid, Json.isNull] using IsIdOf.neither h hid
      · simpa [FunctionNode.idOf, h, Json.isNull_iff, hid] using IsIdOf.second h hid
    · simpa [FunctionNode.idOf, Json.isNull_iff, h] using IsIdOf.first h

theorem FunctionNode.reads_iff {n : FunctionNode} {row : Fields} :
    n.Reads row ↔ n = ofRow row := by
  constructor
  · intro h
    obtain ⟨id, name, file, line, endLine, package, parent⟩ := n
    obtain ⟨hid, rfl, rfl, rfl, rfl, rfl, rfl⟩ := h
    obtain rfl := isIdOf_iff.mp hid
    rfl
  · rintro rfl
    exact ⟨isIdOf_iff.mpr rfl, rfl, rfl, rfl, rfl, rfl, rfl⟩

theorem FunctionNode.ofJson_eq_ok_iff {v : Json} {n : FunctionNode} :
    ofJson v = .ok n ↔ ∃ row, v = .object row ∧ n.Reads row := by
  cases v with
  | object row => simp [ofJson, reads_iff, pure, Except.pure, eq_comm]
  | _ => simp [ofJson]

theorem directionOf_eq_otherwise {otherwise : Option Direction} {row : Fields}
    (hcaller : row.get "direction" ≠ .text "caller")
    (hcallee : row.get "direction" ≠ .text "callee") :
    TraversalNode.directionOf otherwise row = otherwise := by
  have hnone : (row.get "direction").text?.bind Direction.ofName? = none := by
    cases hv : row.get "direction" with
    | text s =>
      rw [hv] at hcaller hcallee
      have hcaller' : "caller" ≠ s := by rintro rfl; exact hcaller rfl
      have hcallee' : "callee" ≠ s := by rintro rfl; exact hcallee rfl
      simp [Json.text?, Direction.ofName?, Direction.name, hcaller', hcallee']
    | _ => rfl
  rw [TraversalNode.directionOf, hnone]

theorem isDirectionOf_iff {otherwise d : Option Direction} {row : Fields} :
    IsDirectionOf otherwise row d ↔ d = TraversalNode.directionOf otherwise row := by
  constructor
  · rintro (h | h | ⟨h, h'⟩)
    · rw [TraversalNode.directionOf, h]
      rfl
    · rw [TraversalNode.directionOf, h]
      rfl
    · exact (directionOf_eq_otherwise h h').symm
  · rintro rfl
    by_cases hcaller : row.get "direction" = .text "caller"
    · rw [TraversalNode.directionOf, hcaller]
      exact .caller hcaller
    · by_cases hcallee : row.get "direction" = .text "callee"
      · rw [TraversalNode.directionOf, hcallee]
        exact .callee hcallee
      · rw [directionOf_eq_otherwise hcaller hcallee]
        exact .other hcaller hcallee

theorem isDepthOf_iff {row : Fields} {n : Int} :
    IsDepthOf row n ↔ TraversalNode.depthOf row = .ok n := by
  constructor
  · rintro (h | ⟨h, hn⟩)
    · simp [TraversalNode.depthOf, h, Json.isNull, pure, Except.pure]
    · simpa [TraversalNode.depthOf, Json.isNull_iff, h] using hn
  · intro hn
    by_cases h : row.get "depth" = .null
    · obtain rfl : 1 = n := by
        simpa [TraversalNode.depthOf, h, Json.isNull, pure, Except.pure] using hn
      exact .near h
    · exact .given h (by simpa [TraversalNode.depthOf, Json.isNull_iff, h] using hn)

theorem TraversalNode.ofRow_eq_ok_iff {otherwise : Option Direction} {row : Fields}
    {n : TraversalNode} : ofRow otherwise row = .ok n ↔ n.Reads otherwise row := by
  constructor
  · intro h
    obtain ⟨depth, hdepth, h⟩ := Except.bind_eq_ok h
    obtain rfl := Except.ok.inj h
    exact ⟨FunctionNode.reads_iff.mpr rfl, isDirectionOf_iff.mpr rfl, isDepthOf_iff.mpr hdepth⟩
  · intro h
    obtain ⟨function, direction, depth⟩ := n
    obtain rfl := FunctionNode.reads_iff.mp h.function
    obtain rfl := isDirectionOf_iff.mp h.direction
    simp [ofRow, isDepthOf_iff.mp h.depth, bind, Except.bind, pure, Except.pure]

theorem TraversalNode.ofJson_eq_ok_iff {otherwise : Option Direction} {v : Json}
    {n : TraversalNode} :
    ofJson otherwise v = .ok n ↔ ∃ row, v = .object row ∧ n.Reads otherwise row := by
  cases v with
  | object row => simp [ofJson, ofRow_eq_ok_iff]
  | _ => simp [ofJson]

theorem mapM_eq_ok_iff_forall₂ {α β : Type} {f : α → Except Failure β} {as : List α}
    {bs : List β} : as.mapM f = .ok bs ↔ List.Forall₂ (fun a b => f a = .ok b) as bs := by
  induction as generalizing bs with
  | nil => simp [pure, Except.pure, eq_comm]
  | cons a as ih =>
    rw [List.mapM_cons, List.forall₂_cons_left_iff]
    constructor
    · intro h
      obtain ⟨b, hb, h⟩ := Except.bind_eq_ok h
      obtain ⟨bs', hbs, h⟩ := Except.bind_eq_ok h
      exact ⟨b, bs', hb, ih.mp hbs, (Except.ok.inj h).symm⟩
    · rintro ⟨b, bs', hb, hbs, rfl⟩
      rw [hb, ih.mpr hbs]
      rfl

theorem mapM_ofJson_eq_ok_iff {otherwise : Option Direction} {items : List Json}
    {nodes : List TraversalNode} : items.mapM (TraversalNode.ofJson otherwise) = .ok nodes ↔
      ∃ rows : List Fields, items = rows.map Json.object ∧
        List.Forall₂ (TraversalNode.Reads otherwise) rows nodes := by
  simp only [mapM_eq_ok_iff_forall₂, TraversalNode.ofJson_eq_ok_iff]
  constructor
  · intro h
    induction h with
    | nil => exact ⟨[], rfl, .nil⟩
    | cons hrow _ ih =>
      obtain ⟨row, rfl, hreads⟩ := hrow
      obtain ⟨rows, rfl, hrows⟩ := ih
      exact ⟨row :: rows, rfl, .cons hreads hrows⟩
  · rintro ⟨rows, rfl, h⟩
    rw [List.forall₂_map_left_iff]
    exact h.imp fun row n hreads => ⟨row, rfl, hreads⟩

namespace Explorer

/-- The nodes that the answer to a traversal lists, one for each row. -/
def Lists (otherwise : Option Direction) (payload : Json) (nodes : List TraversalNode) : Prop :=
  ∃ (fields : Fields) (rows : List Fields), payload = .object fields ∧
    (fields.get "nodes" = .list (rows.map Json.object) ∨
      rows = [] ∧ (fields.get "nodes").isEmpty = true) ∧
    List.Forall₂ (TraversalNode.Reads otherwise) rows nodes

def IsGraphOf (setup : Setup) (focal : FunctionNode) (neighborhood callChain callers : Json)
    (graph : Graph) : Prop :=
  ∃ around callees into, Lists none neighborhood around ∧
    Lists (some .callee) callChain callees ∧ Lists (some .caller) callers into ∧
    Graph.assemble? setup.options setup.budget
      { focal, neighbors := around, callees, callers := into } = .ok graph

/-- What a value gives that is gone through one by one. -/
inductive GoesThrough : Json → List Json → Prop
  | list (items : List Json) : GoesThrough (.list items) items
  | text (s : String) : GoesThrough (.text s) (s.toList.map fun c => .text c.toString)
  | object (fields : Fields) : GoesThrough (.object fields) (fields.map fun f => .text f.1)

/-- A file as two answers have it, loaded by a path. -/
inductive LoadedFile.Joins (path : Json) (f : LoadedFile) : Json → Json → Prop
  | intro {fields declared : Fields}
    (requested : f.requested = (fields.get "fileRequested").orElse path)
    (resolved : f.resolved = (fields.get "fileResolved").orElse path)
    (package : f.package = fields.get "package")
    (content : f.content = (fields.get "content").orElse (.text ""))
    (functions : GoesThrough ((declared.get "functions").orElse (.list [])) f.functions) :
    Joins path f (.object fields) (.object declared)

theorem asFields_eq_ok_iff {v : Json} {fields : Fields} :
    v.asFields = .ok fields ↔ v = .object fields := by
  cases v <;> simp [Json.asFields, pure, Except.pure]

theorem itemsOf_eq_ok_iff {v : Json} {items : List Json} :
    itemsOf v = .ok items ↔ GoesThrough v items := by
  constructor
  · intro h
    cases v with
    | list | text | object =>
      obtain rfl := Except.ok.inj h
      constructor
    | _ => contradiction
  · rintro (_ | _ | _) <;> rfl

theorem goesThrough_rows_iff {v : Json} {rows : List Fields} :
    GoesThrough (v.orElse (.list [])) (rows.map Json.object) ↔
      v = .list (rows.map Json.object) ∨ rows = [] ∧ v.isEmpty = true := by
  rw [Json.orElse]
  split
  · rename_i hempty
    constructor
    · intro h
      cases rows with
      | nil => exact Or.inr ⟨rfl, hempty⟩
      | cons row rows => cases h
    · rintro (rfl | ⟨rfl, -⟩)
      · cases rows with
        | nil => exact .list []
        | cons row rows => simp [Json.isEmpty] at hempty
      · exact .list []
  · rename_i hsome
    constructor
    · -- What is gone through otherwise gives texts, and at least one.
      have hnone {β : Type} {bs : List β} {f : β → String} (hbs : bs ≠ []) :
          rows.map Json.object ≠ bs.map fun b => .text (f b) := by
        intro hsame
        cases rows with
        | nil => exact hbs (List.map_eq_nil_iff.mp hsame.symm)
        | cons row rows =>
          have hrow : Json.object row ∈ bs.map fun b => .text (f b) := hsame ▸ List.mem_cons_self
          obtain ⟨b, -, hb⟩ := List.mem_map.mp hrow
          contradiction
      generalize hitems : rows.map Json.object = items
      rintro (_ | s | fields)
      · exact Or.inl rfl
      · exact absurd hitems (hnone (by simpa [Json.isEmpty] using hsome))
      · exact absurd hitems (hnone (by simpa [Json.isEmpty] using hsome))
    · rintro (rfl | ⟨-, hempty⟩)
      · exact .list _
      · exact absurd hempty hsome

theorem nodesOf_eq_ok_iff {otherwise : Option Direction} {payload : Json}
    {nodes : List TraversalNode} :
    nodesOf otherwise payload = .ok nodes ↔ Lists otherwise payload nodes := by
  constructor
  · intro h
    obtain ⟨fields, hfields, h⟩ := Except.bind_eq_ok h
    obtain ⟨items, hitems, h⟩ := Except.bind_eq_ok h
    obtain ⟨rows, rfl, hrows⟩ := mapM_ofJson_eq_ok_iff.mp h
    exact ⟨fields, rows, asFields_eq_ok_iff.mp hfields,
      goesThrough_rows_iff.mp (itemsOf_eq_ok_iff.mp hitems), hrows⟩
  · rintro ⟨fields, rows, rfl, hlisted, hrows⟩
    have hitems := itemsOf_eq_ok_iff.mpr (goesThrough_rows_iff.mpr hlisted)
    have hnodes := mapM_ofJson_eq_ok_iff.mpr ⟨rows, rfl, hrows⟩
    simp [nodesOf, Json.asFields, hitems, hnodes, bind, Except.bind, pure, Except.pure]

theorem Lists.unique {otherwise : Option Direction} {payload : Json}
    {nodes nodes' : List TraversalNode} (h : Lists otherwise payload nodes)
    (h' : Lists otherwise payload nodes') : nodes = nodes' :=
  Except.ok.inj ((nodesOf_eq_ok_iff.mpr h).symm.trans (nodesOf_eq_ok_iff.mpr h'))

theorem graphOf_eq_ok_iff {setup : Setup} {focal : FunctionNode}
    {neighborhood callChain callers : Json} {graph : Graph} :
    graphOf setup focal neighborhood callChain callers = .ok graph ↔
      IsGraphOf setup focal neighborhood callChain callers graph := by
  constructor
  · intro h
    obtain ⟨around, hn, h⟩ := Except.bind_eq_ok h
    obtain ⟨callees, hc, h⟩ := Except.bind_eq_ok h
    obtain ⟨into, hr, h⟩ := Except.bind_eq_ok h
    exact ⟨around, callees, into, nodesOf_eq_ok_iff.mp hn, nodesOf_eq_ok_iff.mp hc,
      nodesOf_eq_ok_iff.mp hr, h⟩
  · rintro ⟨around, callees, into, hn, hc, hr, h⟩
    simp only [graphOf, nodesOf_eq_ok_iff.mpr hn, nodesOf_eq_ok_iff.mpr hc,
      nodesOf_eq_ok_iff.mpr hr, bind, Except.bind]
    exact h

theorem fileOf_eq_ok_iff {path file functions : Json} {f : LoadedFile} :
    fileOf path file functions = .ok f ↔ f.Joins path file functions := by
  constructor
  · intro h
    obtain ⟨fields, hfields, h⟩ := Except.bind_eq_ok h
    obtain ⟨declared, hdeclared, h⟩ := Except.bind_eq_ok h
    obtain ⟨items, hitems, h⟩ := Except.bind_eq_ok h
    obtain rfl := Except.ok.inj h
    obtain rfl := asFields_eq_ok_iff.mp hfields
    obtain rfl := asFields_eq_ok_iff.mp hdeclared
    exact .intro rfl rfl rfl rfl (itemsOf_eq_ok_iff.mp hitems)
  · intro h
    cases h with
    | @intro fields declared hrequested hresolved hpackage hcontent hfunctions =>
      obtain ⟨requested, resolved, package, content, functions⟩ := f
      obtain rfl := hrequested
      obtain rfl := hresolved
      obtain rfl := hpackage
      obtain rfl := hcontent
      simp [fileOf, Json.asFields, itemsOf_eq_ok_iff.mpr hfunctions, bind, Except.bind, pure,
        Except.pure]

end Explorer
end CallAtlas
