import CallAtlas.Explorer.Step
import CallAtlas.Proofs.Explorer.Payloads
import Mathlib.Data.List.Basic

namespace CallAtlas.Explorer

open Http (Endpoint)

abbrev Replies := Endpoint → Except Failure Json

/-- A request that cannot be written brings back its own failure. -/
def received (reply : Replies) (f : Fetch) : Except Failure Json :=
  match f.unwritable? with
  | some e => .error e
  | none => reply f.endpoint

def loaded (setup : Setup) (reply : Replies) (focal : FunctionNode) :
    Except Failure (FunctionNode × Graph) := do
  let neighborhood ← received reply ⟨.neighborhood (.text focal.id), .pending⟩
  let callChain ← received reply ⟨.callChain (.text focal.id), .pending⟩
  let callers ← received reply ⟨.callers (.text focal.id), .pending⟩
  return (focal, ← graphOf setup focal neighborhood callChain callers)

inductive Focuses (reply : Replies) : Event → FunctionNode → Prop
  | explore (focal : FunctionNode) : Focuses reply (.explore focal) focal
  | exploreId {id : Json} {row : Fields} {focal : FunctionNode}
    (hreply : received reply ⟨.functionDetail id, .pending⟩ = .ok (.object row))
    (hfocal : focal.Reads row) : Focuses reply (.exploreId id) focal

def Assembles (setup : Setup) (reply : Replies) (focal : FunctionNode) : Prop :=
  ∀ neighborhood callChain callers, reply .neighborhood = .ok neighborhood →
    reply .callChain = .ok callChain → reply .callers = .ok callers →
    ∃ graph, IsGraphOf setup focal neighborhood callChain callers graph

/-- What a load comes to: nothing if one of its three requests fails, and otherwise its function
with the graph of the three answers. -/
structure LoadsTo (setup : Setup) (reply : Replies) (focal : FunctionNode)
    (shown : Option (FunctionNode × Graph)) : Prop where
  failed : ∀ call ∈ [Client.Call.neighborhood (.text focal.id), .callChain (.text focal.id),
    .callers (.text focal.id)], ∀ e, received reply ⟨call, .pending⟩ = .error e → shown = none
  assembled : ∀ neighborhood callChain callers,
    received reply ⟨.neighborhood (.text focal.id), .pending⟩ = .ok neighborhood →
    received reply ⟨.callChain (.text focal.id), .pending⟩ = .ok callChain →
    received reply ⟨.callers (.text focal.id), .pending⟩ = .ok callers →
    ∃ graph, IsGraphOf setup focal neighborhood callChain callers graph ∧
      shown = some (focal, graph)

section Loaded

variable {setup : Setup} {reply : Replies} {focal : FunctionNode}

theorem forall_mem_graphFetches {p : Fetch → Prop} :
    (∀ f ∈ graphFetches focal, p f) ↔ p ⟨.neighborhood (.text focal.id), .pending⟩ ∧
      p ⟨.callChain (.text focal.id), .pending⟩ ∧ p ⟨.callers (.text focal.id), .pending⟩ := by
  simp [graphFetches]

theorem toOption_loaded_of_error {f : Fetch} {e : Failure} (hf : f ∈ graphFetches focal)
    (h : received reply f = .error e) : (loaded setup reply focal).toOption = none := by
  simp only [graphFetches, List.mem_cons, List.not_mem_nil, or_false] at hf
  unfold loaded
  rcases hf with rfl | rfl | rfl
  · rw [h]
    rfl
  · cases received reply ⟨.neighborhood (.text focal.id), .pending⟩ with
    | error _ => rfl
    | ok _ =>
      rw [h]
      rfl
  · cases received reply ⟨.neighborhood (.text focal.id), .pending⟩ with
    | error _ => rfl
    | ok _ =>
      cases received reply ⟨.callChain (.text focal.id), .pending⟩ with
      | error _ => rfl
      | ok _ =>
        rw [h]
        rfl

theorem received_of_writable {f : Fetch} (h : f.unwritable? = none) :
    received reply f = reply f.endpoint := by
  rw [received, h]

theorem toOption_loaded_of_ok (hwritable : ∀ f ∈ graphFetches focal, f.unwritable? = none)
    {neighborhood callChain callers : Json} {graph : Graph}
    (hneighborhood : reply .neighborhood = .ok neighborhood)
    (hcallChain : reply .callChain = .ok callChain) (hcallers : reply .callers = .ok callers)
    (hgraph : graphOf setup focal neighborhood callChain callers = .ok graph) :
    (loaded setup reply focal).toOption = some (focal, graph) := by
  have h₁ := hwritable ⟨.neighborhood (.text focal.id), .pending⟩ (by simp [graphFetches])
  have h₂ := hwritable ⟨.callChain (.text focal.id), .pending⟩ (by simp [graphFetches])
  have h₃ := hwritable ⟨.callers (.text focal.id), .pending⟩ (by simp [graphFetches])
  unfold loaded
  rw [received_of_writable h₁, received_of_writable h₂, received_of_writable h₃]
  simp only [Fetch.endpoint, Client.Call.endpoint]
  rw [hneighborhood, hcallChain, hcallers]
  simp only [bind, Except.bind]
  rw [hgraph]
  rfl

theorem reply_of_received {f : Fetch} {v : Json} (h : received reply f = .ok v) :
    reply f.endpoint = .ok v := by
  unfold received at h
  split at h
  · contradiction
  · exact h

theorem loadsTo_loaded (hassembles : Assembles setup reply focal) :
    LoadsTo setup reply focal (loaded setup reply focal).toOption where
  failed := by
    intro call hcall e he
    refine toOption_loaded_of_error (f := ⟨call, .pending⟩) ?_ he
    simpa [graphFetches] using hcall
  assembled := by
    intro neighborhood callChain callers hn hc hr
    obtain ⟨graph, hgraph⟩ := hassembles _ _ _ (reply_of_received hn) (reply_of_received hc)
      (reply_of_received hr)
    refine ⟨graph, hgraph, ?_⟩
    rw [loaded, hn, hc, hr]
    simp only [bind, Except.bind]
    rw [graphOf_eq_ok_iff.mpr hgraph]
    rfl

end Loaded

/-- A request whose answer is still to come, or has come and is no failure. -/
def Awaits (reply : Replies) (f : Fetch) : Prop :=
  f.isPending = true ∨ ∃ v, reply f.endpoint = .ok v ∧ f.progress = .answered (.ok v)

/-- The three requests of a graph, after the look-up of its function if there was one. -/
structure Gathers (reply : Replies) (focal : FunctionNode) (fetches : List Fetch) : Prop where
  writable : ∀ f ∈ graphFetches focal, f.unwritable? = none
  split : ∃ ahead asked, fetches = ahead ++ asked ∧
    (∀ f ∈ ahead, f.endpoint = .functionDetail ∧ f.isPending = false) ∧
    asked.map Fetch.call = (graphFetches focal).map Fetch.call ∧ ∀ f ∈ asked, Awaits reply f

namespace State

@[simp] theorem call_answered (e : Endpoint) (reply : Except Failure Json) (f : Fetch) :
    (answered e reply f).call = f.call := by
  unfold answered
  split <;> rfl

theorem answered_of_closed {e : Endpoint} {reply : Except Failure Json} {f : Fetch}
    (h : f.isPending = false) : answered e reply f = f := by
  rw [answered, if_neg]
  simp [isOpen, h]

end State

section Gathers

variable {reply : Replies} {focal : FunctionNode} {fetches : List Fetch}

theorem Awaits.answered {f : Fetch} (h : Awaits reply f) {e : Endpoint} {v : Json}
    (hreply : reply e = .ok v) : Awaits reply (State.answered e (.ok v) f) := by
  unfold State.answered
  split
  · rename_i hopen
    simp only [State.isOpen, Bool.and_eq_true, beq_iff_eq] at hopen
    exact Or.inr ⟨v, hopen.1 ▸ hreply, rfl⟩
  · exact h

theorem Gathers.answered (h : Gathers reply focal fetches) {e : Endpoint} {v : Json}
    (hreply : reply e = .ok v) : Gathers reply focal (fetches.map (State.answered e (.ok v))) := by
  obtain ⟨hwritable, ahead, asked, rfl, hahead, hcalls, hawaits⟩ := h
  refine ⟨hwritable, ahead, asked.map (State.answered e (.ok v)), ?_, hahead, ?_, ?_⟩
  · rw [List.map_append, List.map_congr_left fun f hf => State.answered_of_closed (hahead f hf).2,
      List.map_id']
  · rw [List.map_map, ← hcalls]
    exact List.map_congr_left fun f _ => State.call_answered _ _ f
  · intro f hf
    obtain ⟨g, hg, rfl⟩ := List.mem_map.mp hf
    exact (hawaits g hg).answered hreply

theorem Gathers.of_open (h : Gathers reply focal fetches) {f : Fetch} (hf : f ∈ fetches)
    (hopen : f.isPending = true) :
    ∃ g ∈ graphFetches focal, received reply g = reply f.endpoint := by
  obtain ⟨hwritable, ahead, asked, rfl, hahead, hcalls, -⟩ := h
  rcases List.mem_append.mp hf with hf | hf
  · rw [(hahead f hf).2] at hopen
    contradiction
  · have hcall : f.call ∈ (graphFetches focal).map Fetch.call := hcalls ▸ List.mem_map_of_mem hf
    obtain ⟨g, hg, hsame⟩ := List.mem_map.mp hcall
    refine ⟨g, hg, ?_⟩
    rw [received_of_writable (hwritable g hg), Fetch.endpoint, hsame, Fetch.endpoint]

theorem reply?_of_awaits {f : Fetch} (h : Awaits reply f) (hclosed : f.isPending = false) :
    ∃ v, reply f.endpoint = .ok v ∧ f.reply? = some (.ok v) := by
  rcases h with hopen | ⟨v, hreply, hprogress⟩
  · rw [hclosed] at hopen
    contradiction
  · exact ⟨v, hreply, by rw [Fetch.reply?, hprogress]⟩

theorem payload_eq {t : Task} {e : Endpoint} {f : Fetch} {v : Json}
    (hfind : t.fetches.find? (·.endpoint == e) = some f) (hreply : f.reply? = some (.ok v)) :
    t.payload e = v := by
  rw [Task.payload, hfind, Option.bind_some, hreply]

theorem Gathers.payloads {t : Task} (h : Gathers reply focal t.fetches)
    (hclosed : ∀ f ∈ t.fetches, f.isPending = false) :
    reply .neighborhood = .ok (t.payload .neighborhood) ∧
      reply .callChain = .ok (t.payload .callChain) ∧
      reply .callers = .ok (t.payload .callers) := by
  obtain ⟨-, ahead, asked, hfetches, hahead, hcalls, hawaits⟩ := h
  obtain ⟨a, b, c, rfl⟩ : ∃ a b c, asked = [a, b, c] :=
    List.length_eq_three.mp (by simpa [graphFetches] using congrArg List.length hcalls)
  simp only [graphFetches, List.map_cons, List.map_nil, List.cons.injEq, and_true] at hcalls
  have ha : a.endpoint = .neighborhood := by rw [Fetch.endpoint, hcalls.1]; rfl
  have hb : b.endpoint = .callChain := by rw [Fetch.endpoint, hcalls.2.1]; rfl
  have hc : c.endpoint = .callers := by rw [Fetch.endpoint, hcalls.2.2]; rfl
  have hfind (e : Endpoint) (he : e ≠ .functionDetail) :
      t.fetches.find? (·.endpoint == e) = [a, b, c].find? (·.endpoint == e) := by
    have hnone : ahead.find? (·.endpoint == e) = none :=
      List.find?_eq_none.mpr fun f hf => by simpa [(hahead f hf).1] using he.symm
    rw [hfetches, List.find?_append, hnone, Option.none_or]
  have hreply {f : Fetch} (hf : f ∈ [a, b, c]) :=
    reply?_of_awaits (hawaits f hf) (hclosed f (hfetches ▸ List.mem_append_right _ hf))
  obtain ⟨u, hu, hu'⟩ := hreply (f := a) (by simp)
  obtain ⟨v, hv, hv'⟩ := hreply (f := b) (by simp)
  obtain ⟨w, hw, hw'⟩ := hreply (f := c) (by simp)
  have hfirst := hfind .neighborhood (by decide)
  have hsecond := hfind .callChain (by decide)
  have hthird := hfind .callers (by decide)
  simp only [List.find?_cons, ha, hb, hc] at hfirst hsecond hthird
  rw [payload_eq hfirst hu', payload_eq hsecond hv', payload_eq hthird hw']
  exact ⟨ha ▸ hu, hb ▸ hv, hc ▸ hw⟩

end Gathers

def lonely : Replies
  | .functionDetail => .ok (.object [("id", .text "a")])
  | _ => .ok (.object [])

def listing (row : Fields) : Json :=
  .object [("nodes", .list [.object row])]

/-- Answers of a server that knows of a function on each side of another one, and of a neighbour. -/
def social : Replies
  | .functionDetail => .ok (.object
    [("function_id", .text "b"), ("name", .text "Bind"), ("file", .text "bind.go")])
  | .neighborhood => .ok (listing [("id", .text "c"), ("name", .text "Call"),
    ("file", .text "call.go"), ("direction", .text "callee")])
  | .callChain => .ok (listing [("id", .text "e"), ("name", .text "Emit"),
    ("file", .text "emit.go"), ("depth", .int 2)])
  | _ => .ok (listing [("id", .text "m"), ("name", .text "Main"), ("file", .text "main.go"),
    ("depth", .int 3)])

def gathered : Graph.Material where
  focal := { id := "b", name := .text "Bind", file := .text "bind.go" }
  neighbors := [{ id := "c", name := .text "Call", file := .text "call.go",
                  direction := some .callee }]
  callees := [{ id := "e", name := .text "Emit", file := .text "emit.go",
                direction := some .callee, depth := 2 }]
  callers := [{ id := "m", name := .text "Main", file := .text "main.go",
                direction := some .caller, depth := 3 }]

theorem lists_social :
    Lists none (listing [("id", .text "c"), ("name", .text "Call"), ("file", .text "call.go"),
        ("direction", .text "callee")]) gathered.neighbors ∧
      Lists (some .callee) (listing [("id", .text "e"), ("name", .text "Emit"),
        ("file", .text "emit.go"), ("depth", .int 2)]) gathered.callees ∧
      Lists (some .caller) (listing [("id", .text "m"), ("name", .text "Main"),
        ("file", .text "main.go"), ("depth", .int 3)]) gathered.callers :=
  ⟨nodesOf_eq_ok_iff.mp rfl, nodesOf_eq_ok_iff.mp rfl, nodesOf_eq_ok_iff.mp rfl⟩

end CallAtlas.Explorer
