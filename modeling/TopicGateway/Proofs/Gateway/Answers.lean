import TopicGateway.Proofs.Gateway.Decoded

/-! What the answer to an accepted request, the body of its message and the properties beside the body
say of one another. Identifiers are drawn once: every copy of one is the same text. -/
namespace TopicGateway.Gateway

open Message
open Broker (Memory Published Topology)

/-- An answer and the body of a message, both as JSON, against that message. -/
structure Agrees (route : Route) (answer body : Json) (message : Published) : Prop where
  messageId : answer.member? "message_id" = some (.string message.envelope.messageId.text)
  bodyMessageId : body.member? "message_id" = some (.string message.envelope.messageId.text)
  propertyMessageId : message.properties.messageId = message.envelope.messageId.text
  propertyCorrelationId : message.properties.correlationId = message.envelope.correlationId
  correlationId : route = .backtest ∨ route = .custom →
    answer.member? "correlation_id" = some (.string message.envelope.correlationId)
  strategyId : route = .strategyUpload → ∃ p, message.envelope.payload = .strategyUpload p ∧
    answer.member? "strategy_id" = some (.string p.strategyId)
  file : route = .fileUpload → ∃ p, message.envelope.payload = .fileUpload p ∧
    answer.member? "file_name" = some (.string p.fileName) ∧
    answer.member? "file_size" = some (.number (sizeNumber p.fileSize))
  routingKey : route = .custom →
    answer.member? "routing_key" = some (.string message.routingKey)
  /-- A payload of the gateway's own goes out under its own message type, as key and as type. -/
  templated : ∀ kind, route.kind? = some kind →
    message.envelope.payload.kind? = some kind ∧
    message.routingKey = message.envelope.messageType ∧
    message.envelope.messageType = kind.messageType

namespace Ready

variable {defaults : Defaults} {draws : Draws} {r : Http.Request} {route : Route} {p : Prepared}

theorem depth_answer_le (ready : Ready defaults draws r route p) : p.answer.depth ≤ 1 := by
  cases ready <;> simp [Json.depth, Json.depthMembers]

/-- No answer has a double in it. -/
theorem reread_answer (ready : Ready defaults draws r route p) : p.answer.reread = p.answer := by
  cases ready <;> rfl

theorem agrees (topology : Topology) (ready : Ready defaults draws r route p) :
    Agrees route p.answer p.envelope.json.reread (Memory.record topology (outgoing draws p)) where
  messageId := by cases ready <;> rfl
  bodyMessageId := rfl
  propertyMessageId := rfl
  propertyCorrelationId := rfl
  correlationId := by
    rintro (rfl | rfl) <;> cases ready <;> rfl
  strategyId := by
    rintro rfl
    cases ready with
    | strategyUpload q => exact ⟨_, rfl, rfl⟩
  file := by
    rintro rfl
    cases ready with
    | fileUpload file => exact ⟨file, rfl, rfl, rfl⟩
  routingKey := by
    rintro rfl
    cases ready
    rfl
  templated := by
    intro kind templated
    obtain ⟨type, key⟩ := ready.messageType_eq templated
    exact ⟨ready.kind?_payload.trans templated, key.trans type.symm, type⟩

end Ready

variable {s : Settings} {topology : Topology} {draws : Draws} {r : Http.Request} {broker : Memory}

/-- The answer to an accepted request and the message it made are about the same thing. -/
theorem accepted_answer_agrees (accepted : Accepted r (serve s topology draws r broker).1) :
    ∃ route message answer body, Route.ofPath? r.route = some route ∧
      (serve s topology draws r broker).2.published = broker.published ++ [message] ∧
      Json.read (serve s topology draws r broker).1.body = .ok answer ∧
      Json.read message.body = .ok body ∧ Agrees route answer body message := by
  obtain ⟨route, p, path, ready, served⟩ := accepted_cases accepted
  refine ⟨route, Memory.record topology (outgoing draws p), p.answer, p.envelope.json.reread, path,
    ?_, ?_, ?_, ready.agrees topology⟩
  · rw [served]
    rfl
  · have read : Json.read p.answer.bytes = .ok p.answer.reread :=
      Json.read_bytes (Nat.le_trans ready.depth_answer_le (by decide))
    rw [served]
    exact read.trans (congrArg Except.ok ready.reread_answer)
  · have inside := ready.depth_payload_le
    have whole : p.envelope.json.depth ≤ Json.deepest := by
      simp only [Envelope.json, Json.depth, Json.depthMembers, Json.deepest, Wire.payloadDepth]
        at inside ⊢
      omega
    exact Json.read_bytes whole

def unnamedStrategy : Http.Request where
  method := "POST"
  path := "/api/strategy/upload"
  headers := [("Content-Type", Text.Utf8.encode "application/json")]
  body := "\x7b\"code\":\"pass\"\x7d".toUTF8

theorem unnamed_strategy_answer_agrees :
    Accepted unnamedStrategy (serve strictSettings .standard zeroDraws unnamedStrategy .fresh).1 ∧
    ∃ route message answer body, Route.ofPath? unnamedStrategy.route = some route ∧
      (serve strictSettings .standard zeroDraws unnamedStrategy .fresh).2.published = [message] ∧
      Json.read (serve strictSettings .standard zeroDraws unnamedStrategy .fresh).1.body =
        .ok answer ∧
      Json.read message.body = .ok body ∧ Agrees route answer body message := by
  have accepted : Accepted unnamedStrategy
      (serve strictSettings .standard zeroDraws unnamedStrategy .fresh).1 := by decide +kernel
  exact ⟨accepted, accepted_answer_agrees accepted⟩

end TopicGateway.Gateway
