import CallAtlas.Client.Exchange
import CallAtlas.Proofs.Store.Access

namespace CallAtlas

open Store

variable {e : Failure}

theorem Failure.message_ne_empty {c : FailureClass} (h : e.class? = some c) : e.message ≠ "" := by
  have hleft {s t : String} (hs : s ≠ "") : s ++ t ≠ "" := by simp [hs]
  have hright {s t : String} (ht : t ≠ "") : s ++ t ≠ "" := by simp [ht]
  cases e with
  | parameterRequired name => exact hleft (hleft (by decide))
  | valuesMissing query names => exact hleft (hleft (hleft (by decide)))
  | functionNotFound id => exact hleft (by decide)
  | sourceNotFound file => exact hleft (by decide)
  | directoryNotFound path => exact hleft (by decide)
  | storeNotConfigured => exact of_decide_eq_true rfl
  | storeAbsent path => exact hleft (by decide)
  | storeUnreadable path reason => exact hleft (hleft (hleft (by decide)))
  | queryUnknown name => exact hleft (by decide)
  | answered status phrase detail => exact hleft (hright (by decide))
  | _ => exact nomatch h

theorem finiteItems_of_forall {items : List Json} (h : ∀ x ∈ items, x.finite = x) :
    Json.finiteItems items = items := by
  induction items with
  | nil => rfl
  | cons x xs ih =>
    rw [Json.finiteItems, h x List.mem_cons_self, ih fun y hy => h y (List.mem_cons_of_mem _ hy)]

theorem finiteFields_of_forall {fields : Fields} (h : ∀ f ∈ fields, f.2.finite = f.2) :
    Json.finiteFields fields = fields := by
  induction fields with
  | nil => rfl
  | cons f fs ih =>
    rw [Json.finiteFields, h f List.mem_cons_self, ih fun g hg => h g (List.mem_cons_of_mem _ hg)]

theorem finite_toFields {row : Row} (h : ∀ field ∈ row, field.2.toJson.finite = field.2.toJson) :
    (Json.object row.toFields).finite = .object row.toFields := by
  have hget (name : String) : (Row.get row name).toJson.finite = (Row.get row name).toJson := by
    cases hfind : row.find? fun field => Store.sameName field.1 name with
    | none =>
      rw [Row.get, Row.get?, hfind]
      rfl
    | some field =>
      rw [Row.get, Row.get?, hfind]
      exact h field (List.mem_of_find?_eq_some hfind)
  rw [Json.finite, finiteFields_of_forall]
  intro f hf
  obtain ⟨name, -, rfl⟩ := List.mem_map.mp hf
  exact hget name

theorem finite_reached {r : Service.Reached}
    (h : ∀ node ∈ r.nodes, (Json.object node).finite = .object node) :
    r.toJson.finite = r.toJson := by
  have hitems : Json.finiteItems (r.nodes.map Json.object) = r.nodes.map Json.object := by
    refine finiteItems_of_forall fun x hx => ?_
    obtain ⟨node, hnode, rfl⟩ := List.mem_map.mp hx
    exact h node hnode
  simp [Service.Reached.toJson, Json.finite, Json.finiteFields, hitems]

namespace Http

theorem Endpoint.ofPath?_location (e : Endpoint) : ofPath? e.location = some e := by
  cases e <;> decide +kernel

def replyTo : Except Failure Json → Except Failure Reply
  | .ok v => .ok (.ofJson 200 v)
  | .error e => (failureReply? e).elim (.error e) .ok

end Http

namespace Client

/-- What the service gives, as a call sees it: a failure has the status of its class, and numbers
without a finite value are lost. -/
def seen : Except Failure Json → Except Failure Json
  | .ok v => .ok v.finite
  | .error e =>
    match e.class? with
    | some c => .error (.answered c.status (Http.phrase c.status) e.message)
    | none => .error e

theorem messageOf_failure {status : Nat} {phrase message : String} (h : message ≠ "") :
    messageOf (.ofJson status (.object [("statusCode", .int status), ("error", .text phrase),
      ("message", .text message)])) = message := by
  have hmessage : (Json.text message).isEmpty = false := by simpa [Json.isEmpty] using h
  have hget : Fields.get [("statusCode", .int status), ("error", .text phrase),
      ("message", .text message)] "message" = .text message := rfl
  unfold messageOf
  simp only [Http.Reply.ofJson, Json.finite, Json.finiteFields, pure, Except.pure,
    Except.toOption, Option.bind_some, Json.fields?, Option.map_some, hget, Option.getD_some,
    hmessage]
  rfl

theorem decode_failureReply {c : FailureClass} {reply : Http.Reply} (hc : e.class? = some c)
    (hreply : Http.failureReply? e = some reply) :
    decode reply = .error (.answered c.status (Http.phrase c.status) e.message) := by
  rw [Http.failureReply?, hc, Option.map_some, Option.some.injEq] at hreply
  have hmessage := @messageOf_failure c.status (Http.phrase c.status) _
    (Failure.message_ne_empty hc)
  rw [hreply] at hmessage
  have hstatus : reply.status = c.status := by rw [← hreply]; rfl
  have herror : reply.isError = true := by
    rw [Http.Reply.isError, hstatus]
    cases c <;> rfl
  obtain ⟨v, hv⟩ : ∃ v, reply.payload = .ok v := by rw [← hreply]; exact ⟨_, rfl⟩
  rw [decode, hv]
  simp only [herror, hstatus, hmessage]
  rfl

theorem decode_replyTo (result : Except Failure Json) :
    Http.replyTo result >>= decode = seen result := by
  cases result with
  | ok v => rfl
  | error e =>
    cases hc : e.class? with
    | none => simp only [Http.replyTo, Http.failureReply?, hc, seen]; rfl
    | some c =>
      have hreply := decode_failureReply hc (by rw [Http.failureReply?, hc]; rfl)
      simp only [Http.replyTo, Http.failureReply?, hc, seen]
      exact hreply

end Client

variable [Engine] {settings : Settings} {source : Source} {cache cache' : Cache}

namespace Http

theorem run_deliver {r : Request} {e : Endpoint} (he : Endpoint.ofPath? r.path = some e) :
    (deliver settings r).run source cache =
      ((answer settings r e).run source cache).map replyTo id := by
  unfold deliver
  rw [he]
  dsimp only
  simp only [Access.run_bind, Access.run_tryCatch]
  rcases (answer settings r e).run source cache with ⟨e | v, _⟩
  · simp only [replyTo, Prod.map]
    cases failureReply? e <;> rfl
  · rfl

end Http

namespace Client

theorem run_ask {c : Call} (hsent : Http.Location.checkQuery c.request.params = .ok ()) :
    (ask settings c).run source cache =
      ((Http.answer settings c.request c.endpoint).run source cache).map seen id := by
  have hdeliver : (Http.deliver settings c.request).run source cache =
      ((Http.answer settings c.request c.endpoint).run source cache).map Http.replyTo id :=
    Http.run_deliver (Http.Endpoint.ofPath?_location c.endpoint)
  rw [ask, hsent, Access.run_bind_of_ok (Access.run_lift _), exchange, Access.run_bind, hdeliver]
  obtain ⟨result, cache'⟩ := (Http.answer settings c.request c.endpoint).run source cache
  simp only [Prod.map, id, ← decode_replyTo]
  cases Http.replyTo result with
  | error e => rfl
  | ok reply => exact Access.run_lift _

theorem run_ask_of_ok {c : Call} (hsent : Http.Location.checkQuery c.request.params = .ok ())
    {v : Json}
    (h : (Http.answer settings c.request c.endpoint).run source cache = (.ok v, cache')) :
    (ask settings c).run source cache = (.ok v.finite, cache') := by
  rw [run_ask hsent, h]
  rfl

end Client
end CallAtlas
