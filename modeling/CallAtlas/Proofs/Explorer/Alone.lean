import CallAtlas.Proofs.Explorer.Acts
import CallAtlas.Proofs.Explorer.Answers
import Mathlib.Data.List.Find

/-! A look-up alone on a fresh explorer, whose requests a server replies to one after the other. It
does not matter in which order the replies to the last three requests come. -/
namespace CallAtlas.Explorer

open Http (Endpoint)

abbrev Server := Client.Call → Except Failure Json

namespace State

def receive (setup : Setup) (server : Server) (i : Nat) (s : State) (e : Endpoint) : State :=
  match (s.task? i).bind fun t => t.fetches.find? (isOpen e) with
  | some f => s.respond setup (.settle i e (server f.call))
  | none => s

theorem receive_of_open {setup : Setup} {server : Server} {s : State} {i : Nat} {t : Task}
    {e : Endpoint} {f : Fetch} {v : Json} (ht : s.task? i = some t) (hopen : t.isPending = true)
    (hf : t.fetches.find? (isOpen e) = some f) (hreply : server f.call = .ok v) :
    s.receive setup server i e = (s.settle setup i t e (.ok v)).settled := by
  have haccepts : s.accepts (.settle i e (.ok v)) = true :=
    accepts_settle_iff.mpr ⟨t, ht, hopen, List.any_eq_true.mpr
      ⟨f, List.mem_of_find?_eq_some hf, List.find?_some hf⟩⟩
  rw [receive, ht, Option.bind_some, hf]
  dsimp only
  rw [hreply, respond, step_of_accepts ht haccepts]

end State

def Fetch.after (payload : Endpoint → Json) (done : List Endpoint) (f : Fetch) : Fetch :=
  if f.endpoint ∈ done then { f with progress := .answered (.ok (payload f.endpoint)) } else f

section After

variable {focal : FunctionNode} {payload : Endpoint → Json} {done : List Endpoint} {f : Fetch}

@[simp] theorem Fetch.endpoint_after : (f.after payload done).endpoint = f.endpoint := by
  unfold after
  split <;> rfl

theorem Fetch.isPending_after (h : f.isPending = true) :
    (f.after payload done).isPending = decide (f.endpoint ∉ done) := by
  unfold after
  split
  · simp [isPending, *]
  · simp [*]

theorem Fetch.answered_after (h : f.isPending = true) (e : Endpoint) :
    State.answered e (.ok (payload e)) (f.after payload done) = f.after payload (e :: done) := by
  rw [State.answered, State.isOpen, Fetch.endpoint_after, Fetch.isPending_after h]
  by_cases hdone : f.endpoint ∈ done
  · simp [after, hdone]
  · by_cases he : f.endpoint = e
    · subst he
      simp [after, hdone]
    · simp [after, hdone, he]

theorem isPending_of_mem_graphFetches (hf : f ∈ graphFetches focal) : f.isPending = true :=
  (State.Begins.explore 0 focal).isPending f hf

theorem find?_graphFetches : ∀ f ∈ graphFetches focal,
    (graphFetches focal).find? (·.endpoint == f.endpoint) = some f :=
  forall_mem_graphFetches.mpr ⟨rfl, rfl, rfl⟩

theorem find?_isOpen_after (hf : f ∈ graphFetches focal) (hdone : f.endpoint ∉ done) :
    ((graphFetches focal).map (Fetch.after payload done)).find? (State.isOpen f.endpoint) =
      some f := by
  have hkept : f.after payload done = f := if_neg hdone
  have hopen (g : Fetch) (hg : g ∈ graphFetches focal) :
      (State.isOpen f.endpoint ∘ Fetch.after payload done) g = (g.endpoint == f.endpoint) := by
    rw [Function.comp_apply, State.isOpen, Fetch.endpoint_after,
      Fetch.isPending_after (isPending_of_mem_graphFetches hg)]
    by_cases he : g.endpoint = f.endpoint <;> simp [he, hdone]
  rw [List.find?_map, List.find?_congr hopen, find?_graphFetches f hf, Option.map_some, hkept]

end After

/-- A task that has looked up a function, where some of the three requests are answered. -/
def gatherer (id : Json) (focal : FunctionNode) (payload : Endpoint → Json)
    (done : List Endpoint) : Task where
  stage := .graph 2 focal
  fetches := ⟨.functionDetail id, .answered (.ok (payload .functionDetail))⟩ ::
    (graphFetches focal).map (Fetch.after payload done)

def gathering (id : Json) (focal : FunctionNode) (payload : Endpoint → Json)
    (done : List Endpoint) : State where
  generation := 2
  tasks := [gatherer id focal payload done]

section Gathering

variable {setup : Setup} {server : Server} {id : Json} {focal : FunctionNode}
  {payload : Endpoint → Json} {done : List Endpoint} {f : Fetch} {graph : Graph}

theorem mem_of_mem_gatherer (hf : f ∈ (gatherer id focal payload done).fetches)
    (hopen : f.isPending = true) : f ∈ graphFetches focal ∧ f.endpoint ∉ done := by
  rcases List.mem_cons.mp hf with rfl | hf
  · contradiction
  · obtain ⟨g, hg, rfl⟩ := List.mem_map.mp hf
    rw [Fetch.isPending_after (isPending_of_mem_graphFetches hg), decide_eq_true_eq] at hopen
    rw [Fetch.endpoint_after, Fetch.after, if_neg hopen]
    exact ⟨hg, hopen⟩

theorem any_isPending_gatherer :
    (gatherer id focal payload done).fetches.any Fetch.isPending = true ↔
      ∃ g ∈ graphFetches focal, g.endpoint ∉ done := by
  rw [List.any_eq_true]
  constructor
  · rintro ⟨g, hg, hopen⟩
    exact ⟨g, mem_of_mem_gatherer hg hopen⟩
  · rintro ⟨g, hg, hdone⟩
    refine ⟨g.after payload done, List.mem_cons_of_mem _ (List.mem_map_of_mem hg), ?_⟩
    rw [Fetch.isPending_after (isPending_of_mem_graphFetches hg), decide_eq_true hdone]

theorem answered_gatherer (e : Endpoint) :
    (gatherer id focal payload done).fetches.map (State.answered e (.ok (payload e))) =
      (gatherer id focal payload (e :: done)).fetches := by
  unfold gatherer
  rw [List.map_cons, State.answered_of_closed rfl, List.map_map]
  refine congrArg _ (List.map_congr_left fun g hg => ?_)
  exact Fetch.answered_after (isPending_of_mem_graphFetches hg) e

theorem payload_gatherer (hf : f ∈ graphFetches focal) (hdone : f.endpoint ∈ done) :
    (gatherer id focal payload done).payload f.endpoint = payload f.endpoint := by
  have hfind : (gatherer id focal payload done).fetches.find? (·.endpoint == f.endpoint) =
      some (f.after payload done) := by
    have hhead (p : Progress) : ∀ f ∈ graphFetches focal,
        (Fetch.endpoint ⟨.functionDetail id, p⟩ == f.endpoint) = false :=
      forall_mem_graphFetches.mpr ⟨rfl, rfl, rfl⟩
    have hsame : (fun g : Fetch => g.endpoint == f.endpoint) ∘ Fetch.after payload done =
        fun g => g.endpoint == f.endpoint := by
      funext g
      rw [Function.comp_apply, Fetch.endpoint_after]
    rw [gatherer, List.find?_cons_of_neg (by simp [hhead _ f hf]), List.find?_map, hsame,
      find?_graphFetches f hf, Option.map_some]
  refine payload_eq hfind ?_
  rw [Fetch.after, if_pos hdone]
  rfl

theorem sent_gathering (hwritable : ∀ f ∈ graphFetches focal, f.unwritable? = none) :
    (gathering id focal payload done).Sent := by
  intro i t ht
  obtain rfl := List.mem_singleton.mp (List.mem_of_getElem? ht)
  rw [Task.unsent?, List.findSome?_eq_none_iff]
  intro f hf
  obtain ⟨hf, hopen⟩ := List.mem_filter.mp hf
  exact hwritable f (mem_of_mem_gatherer hf hopen).1

theorem receive_gathering (hf : f ∈ graphFetches focal)
    (hreply : server f.call = .ok (payload f.endpoint)) (hdone : f.endpoint ∉ done) :
    (gathering id focal payload done).receive setup server 0 f.endpoint =
      (let t := gatherer id focal payload (f.endpoint :: done)
      if t.fetches.any Fetch.isPending then gathering id focal payload (f.endpoint :: done)
      else (gathering id focal payload done).advance setup 0 t).settled := by
  have hself : (gathering id focal payload done).task? 0 =
      some (gatherer id focal payload done) := rfl
  have hopen : (gatherer id focal payload done).fetches.find? (State.isOpen f.endpoint) =
      some f := by
    rw [gatherer, List.find?_cons_of_neg (by simp [State.isOpen, Fetch.isPending])]
    exact find?_isOpen_after hf hdone
  have hnext : { gatherer id focal payload done with
      fetches := (gatherer id focal payload done).fetches.map
        (State.answered f.endpoint (.ok (payload f.endpoint))) } =
      gatherer id focal payload (f.endpoint :: done) := by
    rw [answered_gatherer]
    rfl
  rw [State.receive_of_open hself rfl hopen hreply, State.settle]
  exact congrArg (fun t : Task => (if t.fetches.any Fetch.isPending then
    (gathering id focal payload done).replace 0 t
    else (gathering id focal payload done).advance setup 0 t).settled) hnext

theorem receive_more (hwritable : ∀ f ∈ graphFetches focal, f.unwritable? = none)
    (hf : f ∈ graphFetches focal) (hreply : server f.call = .ok (payload f.endpoint))
    (hdone : f.endpoint ∉ done)
    (hmore : ∃ g ∈ graphFetches focal, g.endpoint ∉ f.endpoint :: done) :
    (gathering id focal payload done).receive setup server 0 f.endpoint =
      gathering id focal payload (f.endpoint :: done) := by
  rw [receive_gathering hf hreply hdone]
  dsimp only
  rw [if_pos (any_isPending_gatherer.mpr hmore)]
  exact State.settled_of_sent (sent_gathering hwritable)

def published (id : Json) (focal : FunctionNode) (payload : Endpoint → Json) (done : List Endpoint)
    (graph : Graph) : State where
  generation := 2
  display := some ⟨2, focal, graph⟩
  tasks := [(gatherer id focal payload done).finish .published]

theorem receive_last (hf : f ∈ graphFetches focal)
    (hreply : server f.call = .ok (payload f.endpoint)) (hdone : f.endpoint ∉ done)
    (hlast : ∀ g ∈ graphFetches focal, g.endpoint ∈ f.endpoint :: done)
    (hgraph : graphOf setup focal (payload .neighborhood) (payload .callChain)
      (payload .callers) = .ok graph) :
    (gathering id focal payload done).receive setup server 0 f.endpoint =
      published id focal payload (f.endpoint :: done) graph := by
  have hclosed : ¬(gatherer id focal payload (f.endpoint :: done)).fetches.any
      Fetch.isPending = true := by
    rw [any_isPending_gatherer]
    rintro ⟨g, hg, hopen⟩
    exact hopen (hlast g hg)
  have hpayload (e : Endpoint) (he : e ∈ (graphFetches focal).map Fetch.endpoint) :
      (gatherer id focal payload (f.endpoint :: done)).payload e = payload e := by
    obtain ⟨g, hg, rfl⟩ := List.mem_map.mp he
    exact payload_gatherer hg (hlast g hg)
  have hadvance : (gathering id focal payload done).advance setup 0
      (gatherer id focal payload (f.endpoint :: done)) =
      published id focal payload (f.endpoint :: done) graph := by
    have hstage : (gatherer id focal payload (f.endpoint :: done)).stage = .graph 2 focal := rfl
    rw [State.advance, hstage]
    dsimp only
    rw [if_neg (by simp [gathering]), hpayload .neighborhood (.head _),
      hpayload .callChain (.tail _ (.head _)), hpayload .callers (.tail _ (.tail _ (.head _))),
      hgraph]
    rfl
  rw [receive_gathering hf hreply hdone]
  dsimp only
  rw [if_neg hclosed, hadvance]
  refine State.settled_of_sent fun j u hu => ?_
  obtain rfl := List.mem_singleton.mp (List.mem_of_getElem? hu)
  exact Task.unsent?_finish _ _

theorem foldl_receive_gathering (hwritable : ∀ f ∈ graphFetches focal, f.unwritable? = none)
    (hreply : ∀ f ∈ graphFetches focal, server f.call = .ok (payload f.endpoint))
    (hgraph : graphOf setup focal (payload .neighborhood) (payload .callChain)
      (payload .callers) = .ok graph) {todo : List Endpoint} (htodo : todo ≠ [])
    (hnodup : (todo ++ done).Nodup)
    (hall : ∀ f ∈ graphFetches focal, f.endpoint ∈ todo ++ done)
    (hasked : ∀ e ∈ todo, ∃ f ∈ graphFetches focal, f.endpoint = e) :
    ∃ answered, todo.foldl (State.receive setup server 0) (gathering id focal payload done) =
      published id focal payload answered graph := by
  -- What is still to come and what is done are the three endpoints at any time, each of them once.
  induction todo generalizing done with
  | nil => contradiction
  | cons e todo ih =>
    obtain ⟨f, hf, rfl⟩ := hasked e List.mem_cons_self
    have hdone : f.endpoint ∉ done := fun h =>
      (List.nodup_cons.mp hnodup).1 (List.mem_append_right _ h)
    rw [List.foldl_cons]
    cases todo with
    | nil => exact ⟨_, receive_last hf (hreply f hf) hdone hall hgraph⟩
    | cons e' todo =>
      have hmoved : ((e' :: todo) ++ f.endpoint :: done).Perm (f.endpoint :: e' :: todo ++ done) :=
        List.perm_middle
      obtain ⟨g, hg, rfl⟩ := hasked e' (List.mem_cons_of_mem _ List.mem_cons_self)
      have hopen : g.endpoint ∉ f.endpoint :: done := fun h =>
        (List.nodup_cons.mp (hmoved.nodup_iff.mpr hnodup)).1 (List.mem_append_right _ h)
      rw [receive_more hwritable hf (hreply f hf) hdone ⟨g, hg, hopen⟩]
      exact ih (List.cons_ne_nil _ _) (hmoved.nodup_iff.mpr hnodup)
        (fun x hx => hmoved.mem_iff.mpr (hall x hx))
        fun x hx => hasked x (List.mem_cons_of_mem _ hx)

theorem receive_detail (hwritable : Fetch.unwritable? ⟨.functionDetail id, .pending⟩ = none)
    (haround : ∀ f ∈ graphFetches focal, f.unwritable? = none)
    (hreply : server (.functionDetail id) = .ok (payload .functionDetail))
    (hfocal : FunctionNode.ofJson (payload .functionDetail) = .ok focal) :
    (({} : State).respond setup (.exploreId id)).receive setup server 0 .functionDetail =
      gathering id focal payload [] := by
  let asked : Task := { stage := .detail 1, fetches := [⟨.functionDetail id, .pending⟩] }
  let told : Task :=
    { stage := .detail 1,
      fetches := [⟨.functionDetail id, .answered (.ok (payload .functionDetail))⟩] }
  have hstart : ({} : State).respond setup (.exploreId id) =
      ({} : State).step setup (.exploreId id) := by
    refine State.settled_of_sent fun i t ht => ?_
    obtain rfl := List.mem_singleton.mp (List.mem_of_getElem? ht)
    simp [Task.unsent?, Fetch.isPending, hwritable]
  have hself : (({} : State).step setup (.exploreId id)).task? 0 = some asked := rfl
  have hadvance : (({} : State).step setup (.exploreId id)).settle setup 0 asked .functionDetail
      (.ok (payload .functionDetail)) =
      (({} : State).step setup (.exploreId id)).advance setup 0 told := rfl
  have hpayload : told.payload .functionDetail = payload .functionDetail := rfl
  have hlatest : ¬1 ≠ (({} : State).step setup (.exploreId id)).generation := not_not.mpr rfl
  have hentered : (({} : State).step setup (.exploreId id)).advance setup 0 told =
      gathering id focal payload [] := by
    rw [State.advance, hpayload, hfocal]
    exact if_neg hlatest
  rw [hstart, State.receive_of_open hself rfl rfl hreply, hadvance, hentered]
  exact State.settled_of_sent (sent_gathering haround)

theorem exists_published
    (hwritable : Fetch.unwritable? ⟨.functionDetail id, .pending⟩ = none)
    (haround : ∀ f ∈ graphFetches focal, f.unwritable? = none)
    (hdetail : server (.functionDetail id) = .ok (payload .functionDetail))
    (hfocal : FunctionNode.ofJson (payload .functionDetail) = .ok focal)
    (hreply : ∀ f ∈ graphFetches focal, server f.call = .ok (payload f.endpoint))
    (hgraph : graphOf setup focal (payload .neighborhood) (payload .callChain)
      (payload .callers) = .ok graph)
    {order : List Endpoint} (horder : order.Perm [.neighborhood, .callChain, .callers]) :
    ∃ answered, (.functionDetail :: order).foldl (State.receive setup server 0)
      (({} : State).respond setup (.exploreId id)) = published id focal payload answered graph := by
  have hendpoints : order.Perm ((graphFetches focal).map Fetch.endpoint) := horder
  rw [List.foldl_cons, receive_detail hwritable haround hdetail hfocal]
  refine foldl_receive_gathering haround hreply hgraph ?_ ?_ ?_ ?_
  · rintro rfl
    exact absurd horder.length_eq (by decide)
  · rw [List.append_nil, horder.nodup_iff]
    decide
  · intro f hf
    rw [List.append_nil, hendpoints.mem_iff]
    exact List.mem_map_of_mem hf
  · intro e he
    exact List.mem_map.mp (hendpoints.mem_iff.mp he)

end Gathering

end CallAtlas.Explorer
