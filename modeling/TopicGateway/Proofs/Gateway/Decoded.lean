import TopicGateway.Proofs.Gateway.Ready
import TopicGateway.Proofs.Json.Depth
import TopicGateway.Proofs.Message.Envelope
import TopicGateway.Proofs.Message.Exact

/-! What is read from the body of the message that an accepted request made. A request may be as deep
as the reader allows: its payload stands one level inside the request and one inside the message. -/
namespace TopicGateway.Gateway

open Message
open Broker (Memory Published Topology)

/-- The kind of payload that a route makes, if it is not the caller's. -/
def Route.kind? : Route → Option Kind
  | .backtest => some .backtest
  | .strategyUpload => some .strategyUpload
  | .dataRequest => some .dataRequest
  | .fileUpload => some .fileUpload
  | .custom => none

namespace Ready

variable {defaults : Defaults} {draws : Draws} {r : Http.Request} {route : Route} {p : Prepared}

theorem kind?_payload (ready : Ready defaults draws r route p) :
    p.envelope.payload.kind? = route.kind? := by
  cases ready <;> rfl

theorem messageType_eq {kind : Kind} (ready : Ready defaults draws r route p)
    (templated : route.kind? = some kind) :
    p.envelope.messageType = kind.messageType ∧ p.routingKey = kind.messageType := by
  cases ready <;> cases templated <;> exact ⟨rfl, rfl⟩

theorem finiteDoubles (finite : defaults.Finite) (ready : Ready defaults draws r route p) :
    p.envelope.payload.FiniteDoubles := by
  cases ready with
  | backtest =>
    exact ⟨finite.slippage, finite.commission, finite.maxPositionSize, finite.maxDrawdown⟩
  | strategyUpload | dataRequest | fileUpload | custom => exact trivial

theorem depth_payload_le (ready : Ready defaults draws r route p) :
    p.envelope.payload.json.depth ≤ Wire.payloadDepth := by
  cases ready with
  | backtest q =>
    simp [Template.backtest, Template.ofKind, Envelope.build, Payload.json, Backtest.json,
      Defaults.executionJson, Defaults.riskJson, Json.depth, Json.depthMembers, depth_floatJson,
      depth_stringsJson, Wire.payloadDepth]
  | strategyUpload q =>
    simp [Template.strategyUpload, Template.ofKind, Envelope.build, Payload.json,
      StrategyUpload.json, Json.Object.empty, Json.Object.value, Json.depth, Json.depthMembers,
      depth_stringsJson, Wire.payloadDepth]
  | dataRequest q =>
    simp [Template.dataRequest, Template.ofKind, Envelope.build, Payload.json, DataRequest.json,
      Json.depth, Json.depthMembers, Wire.payloadDepth]
  | fileUpload file =>
    simp [Template.ofKind, Envelope.build, Payload.json, FileUpload.json, depth_optional,
      Json.depth, Json.depthMembers, Wire.payloadDepth]
  | @custom j payload key type correlation written member =>
    have kept : payload.canonical.depth ≤ payload.depth := Json.depth_canonical_le payload
    have inside : payload.depth < j.depth := Json.depth_member?_lt member
    have whole : j.depth ≤ Json.deepest := Json.depth_of_read written
    have allowed : Json.deepest = Wire.payloadDepth + 1 := rfl
    have shallow : payload.canonical.depth ≤ Wire.payloadDepth := by omega
    exact shallow

end Ready

/-- What is read from the body of a message, by the request that it was made of. -/
structure Decodes (route : Route) (r : Http.Request) (message : Published) (decoded : Envelope) :
    Prop where
  messageId : decoded.messageId = message.envelope.messageId
  messageType : decoded.messageType = message.envelope.messageType
  timestamp : decoded.timestamp = message.envelope.timestamp
  correlationId : decoded.correlationId = message.envelope.correlationId
  /-- A payload of the gateway's own comes back with the doubles that are read of its own. -/
  templated : ∀ kind, route.kind? = some kind → decoded.payload.kind? = some kind ∧
    decoded.payload = message.envelope.payload.reread ∧
    (decoded.payload = message.envelope.payload ↔ message.envelope.payload.json.Restored)
  /-- So does the value that a payload of the caller's has in the request. -/
  custom : route = .custom → ∃ j payload, Json.read r.body.data.toList = .ok j ∧
    j.member? "payload" = some payload ∧ decoded.payload.json.value = payload.value.reread ∧
    (decoded.payload.json.value = payload.value ↔ payload.value.json.Restored)

theorem Ready.decodes {defaults : Defaults} {draws : Draws} {r : Http.Request} {route : Route}
    {p : Prepared} {topology : Topology} (finite : defaults.Finite)
    (ready : Ready defaults draws r route p) :
    ∃ decoded, Envelope.read p.envelope.bytes = .ok decoded ∧
      Decodes route r (Memory.record topology (outgoing draws p)) decoded := by
  refine ⟨_, Envelope.read_bytes ready.depth_payload_le, rfl, rfl, rfl, rfl, ?_, ?_⟩
  · intro kind templated
    have typed : p.envelope.payload.messageType? = some p.envelope.messageType := by
      rw [Payload.messageType?, ready.kind?_payload, templated,
        (ready.messageType_eq templated).1]
      rfl
    have again : Payload.ofWire p.envelope.messageType p.envelope.payload.json.reread.value =
        p.envelope.payload.reread := by
      rw [Json.value_reread, Payload.ofWire_reread,
        Payload.ofWire_value typed (ready.finiteDoubles finite)]
    refine ⟨?_, again, (Eq.congr_left again).trans p.envelope.payload.reread_eq_self_iff⟩
    calc Payload.kind? (Payload.ofWire p.envelope.messageType p.envelope.payload.json.reread.value)
        = p.envelope.payload.kind? := by rw [again, Payload.kind?_reread]
      _ = some kind := ready.kind?_payload.trans templated
  · rintro rfl
    cases ready with
    | @custom j payload key type correlation written member =>
      have again (messageType : String) : (Payload.ofWire messageType
          (Payload.custom payload.value).json.reread.value).json.value = payload.value.reread :=
        Payload.value_ofWire messageType _
      refine ⟨_, _, written, member, again _, ?_⟩
      exact (Eq.congr_left (again _)).trans payload.value.reread_eq_self_iff

variable {s : Settings} {topology : Topology} {draws : Draws} {r : Http.Request} {broker : Memory}

/-- The message of an accepted request can be read again, whatever the caller sent: it has the same
identity, and the payload that was published or, for a payload of the caller's, the value that the
request has for it, either with the doubles that are read of its own. So it is the same one just where
every double is restored. -/
theorem accepted_message_decodes (finite : s.defaults.Finite)
    (accepted : Accepted r (serve s topology draws r broker).1) :
    ∃ route message decoded, Route.ofPath? r.route = some route ∧
      (serve s topology draws r broker).2.published = broker.published ++ [message] ∧
      Envelope.read message.body = .ok decoded ∧ Decodes route r message decoded := by
  obtain ⟨route, p, path, ready, served⟩ := accepted_cases accepted
  obtain ⟨decoded, read, decodes⟩ := ready.decodes finite
  refine ⟨route, Memory.record topology (outgoing draws p), decoded, path, ?_, read, decodes⟩
  rw [served]
  rfl

def payloadRequest (payload : String) : Http.Request where
  method := "POST"
  path := "/api/message/custom"
  headers := []
  body := (("\x7b\"routing_key\":\"data.x\",\"payload\":" ++ payload) ++ "\x7d").toUTF8

/-- A payload that is a number is published with another last digit, and what is read of that is not the
value that the request has. -/
theorem number_payload_decodes_as_neighbour :
    let r := payloadRequest "9.205966767552478"
    Accepted r (serve strictSettings .standard zeroDraws r .fresh).1 ∧
    (Json.read r.body.data.toList).toOption.bind (·.member? "payload") =
      some (Json.nearest 9205966767552479 (-15)) ∧
    ((serve strictSettings .standard zeroDraws r .fresh).2.published.map fun message =>
      (Envelope.read message.body).toOption.map fun decoded => decoded.payload.json) =
      [some (Json.nearest 920596676755248 (-14))] ∧
    (Json.nearest 920596676755248 (-14)).value ≠ (Json.nearest 9205966767552479 (-15)).value := by
  intro r
  refine ⟨?_, ?_, ?_, ?_⟩
  all_goals decide +kernel

def deepestRequest : Http.Request where
  method := "POST"
  path := "/api/message/custom"
  headers := []
  body := ⟨(Text.Utf8.encode "\x7b\"routing_key\":\"data.x\",\"payload\":" ++
    List.replicate 126 0x5b ++ List.replicate 126 0x5d ++ [0x7d]).toArray⟩

theorem deepest_message_decodes :
    Accepted deepestRequest (serve strictSettings .standard zeroDraws deepestRequest .fresh).1 ∧
    ∃ route message decoded, Route.ofPath? deepestRequest.route = some route ∧
      (serve strictSettings .standard zeroDraws deepestRequest .fresh).2.published = [message] ∧
      Envelope.read message.body = .ok decoded ∧ Decodes route deepestRequest message decoded := by
  have accepted : Accepted deepestRequest
      (serve strictSettings .standard zeroDraws deepestRequest .fresh).1 := by decide +kernel
  exact ⟨accepted, accepted_message_decodes finite_builtIn accepted⟩

end TopicGateway.Gateway
