import TopicGateway.Proofs.Gateway.Decoded
import TopicGateway.Proofs.Gateway.Policies

/-! What becomes of a custom request. Its key and its payload go out as they were given, the payload
under any message type, and where a type or a correlation id shows nothing, another one stands in. -/
namespace TopicGateway.Gateway

open Message
open Broker (Connector Memory Outgoing Topology)

/-- A text that is given counts if something of it can be seen. Otherwise the other one stands. -/
def Counts (given : Option String) (other text : String) : Prop :=
  (given = some text ∧ ∃ c ∈ text.toList, Text.isWhite c = false) ∨
  ((∀ blank, given = some blank → ∀ c ∈ blank.toList, Text.isWhite c = true) ∧ text = other)

/-- A message says what a custom request says. -/
structure Conveys (draws : Draws) (r : Http.Request) (m : Outgoing) : Prop where
  routingKey : saidText? r "routing_key" = some m.routingKey
  messageType : Counts (saidText? r "message_type") "custom" m.envelope.messageType
  correlationId : Counts (saidText? r "correlation_id") draws.stamp.correlationId.text
    m.envelope.correlationId
  payload : ∃ payload, said? r "payload" = some payload ∧
    m.envelope.payload = .custom payload.value ∧
    -- The body of the message has the payload as a member and is read as an envelope with it; of both,
    -- the doubles are those that are read where the payload is written.
    (∃ body written, Json.read m.envelope.bytes = .ok body ∧
      body.member? "payload" = some written ∧ written.value = payload.value.reread) ∧
    (∃ decoded, Envelope.read m.envelope.bytes = .ok decoded ∧
      decoded.payload.json.value = payload.value.reread) ∧
    (payload.value.reread = payload.value ↔ payload.value.json.Restored)

theorem counts_nonBlank (given : Option String) (other : String) :
    Counts given other ((Text.nonBlank given).getD other) := by
  cases kept : Text.nonBlank given with
  | some text =>
    obtain ⟨same, seen⟩ := Text.nonBlank_eq_some_iff.1 kept
    exact .inl ⟨same, Text.blank_eq_false_iff.1 seen⟩
  | none =>
    refine .inr ⟨?_, rfl⟩
    rintro blank rfl
    have dropped := Option.filter_eq_none_iff.1 kept blank rfl
    simpa [Text.blank] using dropped

section Preparing

variable {defaults : Defaults} {draws : Draws} {r : Http.Request} {route : Route} {p : Prepared}

/-- What was published can be read again, as JSON and as an envelope. -/
theorem Ready.read_back (ready : Ready defaults draws r route p) :
    Json.read p.envelope.bytes = .ok p.envelope.json.reread ∧
    ∃ decoded, Envelope.read p.envelope.bytes = .ok decoded ∧
      decoded.payload.json.value = p.envelope.payload.json.value.reread := by
  have inside : p.envelope.payload.json.depth ≤ Wire.payloadDepth := ready.depth_payload_le
  constructor
  · have whole : p.envelope.json.depth ≤ Json.deepest := by
      simp only [Envelope.json, Json.depth, Json.depthMembers, Json.deepest, Wire.payloadDepth]
        at inside ⊢
      omega
    exact Json.read_bytes whole
  · refine ⟨_, Envelope.read_bytes inside, ?_⟩
    rw [← Json.value_reread]
    exact Payload.value_ofWire _ _

theorem conveys_of_prepareCustom (ready : prepareCustom draws r = .ok p) :
    Conveys draws r (outgoing draws p) := by
  obtain ⟨key, payload, said, envelope, made⟩ := prepareCustom_eq_ok ready
  obtain ⟨body, decoded, read, value⟩ := (made .builtIn).read_back
  have custom : p.envelope.payload = .custom payload.value := by
    rw [envelope]
    rfl
  have same : p.envelope.payload.json.value = payload.value := by
    rw [custom]
    exact Json.Value.value_json _
  refine ⟨key, ?_, ?_, payload, said, custom, ⟨_, _, body, rfl, ?_⟩, ⟨decoded, read, ?_⟩,
    payload.value.reread_eq_self_iff⟩
  · have type := counts_nonBlank (saidText? r "message_type") Template.customType
    rw [outgoing, envelope]
    exact type
  · have correlation := counts_nonBlank (saidText? r "correlation_id") draws.stamp.correlationId.text
    rw [outgoing, envelope]
    exact correlation
  · rw [← same, ← Json.value_reread]
  · rw [value, same]

end Preparing

/-- A custom request that is answered with status 200, over any broker, is a message that says what the
request says, its body up to doubles that are not restored. It has gone out there, and wherever else
the request is answered so, the same message goes out. -/
theorem custom_message_as_given {σ ρ φ : Type} {s : Settings} {c : Connector σ ρ φ} {draws : Draws}
    {r : Http.Request} {broker : σ} (path : Route.ofPath? r.route = some .custom)
    (ok : (handle s c draws r broker).1.status = 200) :
    ∃ m, Conveys draws r m ∧
      c.publishFresh m broker = (.ok true, (handle s c draws r broker).2) ∧
      ∀ (topology : Topology) (memory : Memory),
        (handle s (Memory.connector topology) draws r memory).1.status = 200 →
        ∃ entry, (handle s (Memory.connector topology) draws r memory).2.published =
          memory.published ++ [entry] ∧ Memory.IsRecord topology m entry := by
  obtain ⟨route, p, given, prepared, _, went⟩ := accepted_sent (accepted_of_ok path ok)
  cases path.symm.trans given
  refine ⟨outgoing draws p, conveys_of_prepareCustom prepared, went, fun topology memory ok => ?_⟩
  obtain ⟨posted, _⟩ := accepted_of_ok path ok
  exact (records_of_ready topology memory posted path prepared).added ok

/-- A number with sixteen digits is published with another last one, so what the published bytes have for
the payload is not what the request has. -/
theorem number_payload_published_as_neighbour :
    let r := payloadRequest "9.205966767552478"
    (handle strictSettings (Memory.connector .standard) zeroDraws r .fresh).1.status = 200 ∧
    said? r "payload" = some (Json.nearest 9205966767552479 (-15)) ∧
    ((handle strictSettings (Memory.connector .standard) zeroDraws r .fresh).2.published.map
      fun entry => (Json.read entry.body).toOption.bind (·.member? "payload")) =
      [some (Json.nearest 920596676755248 (-14))] ∧
    (Json.nearest 920596676755248 (-14)).value ≠ (Json.nearest 9205966767552479 (-15)).value := by
  intro r
  refine ⟨?_, ?_, ?_, ?_⟩
  all_goals decide +kernel

/-- A message under the type of data requests, with white space around its key and nothing to see in
its correlation id. Its payload has a member twice and a number that is no integer any more. -/
def spacedMessage : Http.Request where
  method := "POST"
  path := "/api/message/custom"
  headers := []
  body := "\x7b\"routing_key\":\" data.x\\t\",\"message_type\":\"data.request\",
    \"correlation_id\":\" \\u00a0\",\"payload\":\x7b\"b\":[\"\\u0000é\",null],\"a\":1,
    \"c\":18446744073709551616,\"a\":[-9223372036854775808]\x7d\x7d".toUTF8

theorem spaced_message_as_given :
    let s := strictSettings.under .warn
    Route.ofPath? spacedMessage.route = some .custom ∧
    (handle s (Memory.connector .standard) zeroDraws spacedMessage .fresh).1.status = 200 ∧
    ∃ m entry, Conveys zeroDraws spacedMessage m ∧
      (handle s (Memory.connector .standard) zeroDraws spacedMessage .fresh).2.published = [entry] ∧
      entry.routingKey = " data.x\t" ∧ entry.body = m.envelope.bytes ∧
      entry.envelope.messageType = "data.request" ∧
      entry.envelope.correlationId = zeroDraws.stamp.correlationId.text ∧
      m.envelope.payload.json.Restored := by
  intro s
  have path : Route.ofPath? spacedMessage.route = some .custom := by decide +kernel
  have ok : (handle s (Memory.connector .standard) zeroDraws spacedMessage .fresh).1.status = 200 := by
    decide +kernel
  obtain ⟨m, conveys, _, published⟩ := custom_message_as_given path ok
  obtain ⟨entry, recorded, holds⟩ := published .standard .fresh ok
  have key : saidText? spacedMessage "routing_key" = some " data.x\t" := by decide +kernel
  have type : saidText? spacedMessage "message_type" = some "data.request" := by decide +kernel
  have correlation : saidText? spacedMessage "correlation_id" = some " \u00a0" := by decide +kernel
  have restored : ∀ payload, said? spacedMessage "payload" = some payload →
      payload.value.json.Restored := by
    have given : ((said? spacedMessage "payload").map fun payload =>
        decide payload.value.json.Restored) = some true := by decide +kernel
    intro payload said
    rw [said] at given
    exact of_decide_eq_true (Option.some.inj given)
  refine ⟨path, ok, m, entry, conveys, recorded, ?_, holds.body, ?_, ?_, ?_⟩
  · rw [holds.routingKey]
    exact Option.some.inj (conveys.routingKey.symm.trans key)
  · rw [holds.envelope]
    rcases conveys.messageType with ⟨given, _⟩ | ⟨blank, _⟩
    · exact Option.some.inj (given.symm.trans type)
    · exact absurd (List.all_eq_true.2 (blank _ type)) (by decide)
  · rw [holds.envelope]
    rcases conveys.correlationId with ⟨given, seen⟩ | ⟨_, other⟩
    · rw [Option.some.inj (given.symm.trans correlation)] at seen
      exact absurd (Text.blank_eq_false_iff.2 seen) (by decide)
    · exact other
  · obtain ⟨payload, said, custom, _⟩ := conveys.payload
    rw [custom]
    exact restored payload said

end TopicGateway.Gateway
