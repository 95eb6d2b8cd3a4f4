import CallAtlas.Graph.Assembly
import CallAtlas.Proofs.Graph.Selection
import CallAtlas.Proofs.Sorting

/-! Rows whose names and files are texts. From those a graph is always assembled, whatever the
budget; from other rows it is the same graph or none. -/
namespace CallAtlas.Graph

/-- Names are texts, and files are texts or absent. -/
structure Material.Typed (m : Material) : Prop where
  name : ∀ n ∈ m.neighbors ++ m.callers ++ m.callees, ∃ s, n.name = .text s
  file : ∀ n ∈ m.neighbors ++ m.callers ++ m.callees, n.file = .null ∨ ∃ s, n.file = .text s

def Material.crowded : Material where
  focal := { id := "f" }
  neighbors := [{ id := "d", direction := some .caller }, { id := "d", direction := some .callee }]
  callers := [{ id := "a", depth := 2 }, { id := "b", depth := 1 }, { id := "a", depth := 3 }]
  callees := [{ id := "x", depth := 0 }, { id := "y", depth := 2 }]

theorem Material.crowded_typed : crowded.Typed where
  name := by simp [crowded]
  file := by simp [crowded]

def HasTextName (n : TraversalNode) : Prop :=
  ∃ s, n.name = .text s

section Ranking

variable {options : Options} {focal : FunctionNode}

theorem ranksBefore?_compares (mark : String) (focal : FunctionNode) :
    Sorting.Compares (ranksBefore? mark focal) HasTextName := by
  rintro a b ⟨s, hs⟩ ⟨t, ht⟩
  unfold ranksBefore?
  dsimp only
  split
  · exact .pure trivial
  · split
    · exact .pure trivial
    · rw [hs, ht, Json.before?]
      exact .pure trivial

theorem rank?_eq_ok (hmark : options.markFault = none) {nodes : List TraversalNode}
    (hnames : ∀ n ∈ nodes, HasTextName n) :
    rank? options focal nodes = .ok (rank options.externalMark focal nodes) := by
  unfold rank?
  rw [Sorting.check_eq_ok (ranksBefore?_compares _ _) hnames]
  split
  · rename_i e h
    rw [hmark] at h
    contradiction
  · rfl

theorem select?_eq_ok (hmark : options.markFault = none) (split : Split)
    {callers callees : List TraversalNode} (hcallers : ∀ n ∈ callers, HasTextName n)
    (hcallees : ∀ n ∈ callees, HasTextName n) :
    select? options focal split callers callees =
      .ok (select options.externalMark focal split callers callees) := by
  have hranked {nodes : List TraversalNode} (h : ∀ n ∈ nodes, HasTextName n) (i : Nat) :
      ∀ n ∈ (rank options.externalMark focal nodes).drop i, HasTextName n := fun n hn =>
    h n ((List.mergeSort_perm _ _).mem_iff.mp (List.mem_of_mem_drop hn))
  unfold select?
  rw [rank?_eq_ok hmark hcallers, rank?_eq_ok hmark hcallees]
  split
  · rename_i h
    rw [select, if_pos h]
    rfl
  · simp only [bind, Except.bind]
    split
    · rw [rank?_eq_ok hmark (Sorting.forall_append (hranked hcallers _) (hranked hcallees _))]
      rfl
    · rfl

end Ranking

section Assemble

variable {options : Options} {budget : Int} {m : Material}

theorem checkFiles_eq_ok {nodes : List TraversalNode}
    (h : ∀ n ∈ nodes, n.file = .null ∨ ∃ s, n.file = .text s) :
    checkFiles nodes = .ok () := by
  have hnone : nodes.findSome? unreadable? = none := by
    rw [List.findSome?_eq_none_iff]
    intro n hn
    rcases h n hn with hfile | ⟨s, hfile⟩
    · simp [unreadable?, hfile, Json.isEmpty]
    · simp [unreadable?, hfile]
  rw [checkFiles, hnone]
  rfl

theorem mem_rows_of_mem_pool {side : Direction} {n : TraversalNode}
    (hn : n ∈ m.pool options side) : ∃ x ∈ m.rows side, n.name = x.name := by
  rw [Material.pool, pool_eq, List.mem_map] at hn
  obtain ⟨x, hx, rfl⟩ := hn
  have hkept := (List.mem_filter.mp (mem_of_mem_shallowest hx)).1
  exact ⟨x, (List.mem_filter.mp hkept).1, rfl⟩

theorem Material.Typed.pool (h : m.Typed) (side : Direction) :
    ∀ n ∈ m.pool options side, HasTextName n := by
  intro n hn
  obtain ⟨x, hx, hname⟩ := mem_rows_of_mem_pool hn
  have hrow : x ∈ m.neighbors ++ m.callers ++ m.callees := by
    cases side with
    | caller => exact List.mem_append_left _ (List.mem_append_right _ hx)
    | callee => exact List.mem_append_right _ hx
  obtain ⟨s, hs⟩ := h.name x hrow
  exact ⟨s, hname.trans hs⟩

theorem assemble?_eq_ok (hmark : options.markFault = none) (h : m.Typed) :
    assemble? options (.whole budget) m = .ok (assemble options budget m) := by
  have hfiles : m.checkFiles = .ok () := by
    have hfile := h.file
    unfold Material.checkFiles
    rw [checkFiles_eq_ok fun n hn => hfile n (by simp [hn]),
      checkFiles_eq_ok fun n hn => hfile n (by simp [hn]),
      checkFiles_eq_ok fun n hn => hfile n (by simp [hn])]
    rfl
  unfold assemble?
  split
  · rename_i hid
    rw [assemble, if_pos hid]
    rfl
  · rw [hfiles]
    change (do
      discard (select? options m.focal (Split.ofBudget budget (m.directIds options).length)
        (m.pool options .caller) (m.pool options .callee))
      pure (assemble options budget m)) = _
    rw [select?_eq_ok hmark _ (h.pool .caller) (h.pool .callee)]
    rfl

theorem eq_assemble_of_assemble?_eq_ok {g : Graph}
    (h : assemble? options (.whole budget) m = .ok g) : g = assemble options budget m := by
  unfold assemble? at h
  split at h
  · rename_i hid
    rw [assemble, if_pos hid]
    exact (Except.ok.inj h).symm
  · obtain ⟨_, _, h⟩ := Except.bind_eq_ok h
    obtain ⟨n, hn, h⟩ := Except.bind_eq_ok h
    obtain ⟨_, _, h⟩ := Except.bind_eq_ok h
    cases hn
    exact (Except.ok.inj h).symm

end Assemble

end CallAtlas.Graph
