import TopicGateway.Message.Envelope
import TopicGateway.Proofs.Json.Records
import TopicGateway.Proofs.Message.Rereading
import TopicGateway.Proofs.Uuid

/-! What comes back when an envelope is written and read. Its members are written in the order in
which they are read; only the payload can be nested, so only its depth decides whether the envelope
is read at all. -/
namespace TopicGateway.Message

open Json (textMember writeString)

namespace Wire

/-- The parts of an envelope around its payload, as they are read. -/
def ofEnvelope (e : Envelope) (payload : Json.Value) : Wire where
  messageId := e.messageId
  messageType := e.messageType
  timestamp := e.timestamp
  correlationId := e.correlationId
  payload := payload

/-- How many levels a payload may have inside its envelope. -/
def payloadDepth : Nat := 126

theorem parseUuid_text (u : Uuid) : parseUuid u.text = .ok u := by
  rw [parseUuid, u.parse_text]
  rfl

theorem parseTime_text (t : Time.Instant) : parseTime t.text = .ok t := by
  rw [parseTime, t.parse_text]
  rfl

/-- The members of an envelope up to the colon in front of its payload. -/
def header (e : Envelope) (payload : List UInt8) : List UInt8 :=
  textMember "message_id" e.messageId.text <|
  textMember "message_type" e.messageType <|
  textMember "timestamp" e.timestamp.text <|
  textMember "correlation_id" e.correlationId <|
  writeString "payload" (0x3a :: payload)

theorem bytes_eq (e : Envelope) : e.bytes = 0x7b :: header e (e.payload.json.write [0x7d]) := by
  rfl

theorem length_header (e : Envelope) (payload : List UInt8) : 4 ≤ (header e payload).length := by
  have four := Nat.zero_le (writeString "payload" (0x3a :: payload)).length
  have three := Nat.lt_of_le_of_lt four (Json.length_textMember "correlation_id" e.correlationId _)
  have two := Nat.lt_of_le_of_lt three (Json.length_textMember "timestamp" e.timestamp.text _)
  have one := Nat.lt_of_le_of_lt two (Json.length_textMember "message_type" e.messageType _)
  exact Nat.lt_of_le_of_lt one (Json.length_textMember "message_id" e.messageId.text _)

/-- The fields in front of the payload are read as they were written. -/
theorem fieldsWithin_header (e : Envelope) (payload : List UInt8) : ∃ fuel,
    Json.fieldsWithin record.fields payloadDepth ((header e payload).length + 1) [] unread
      (header e payload) =
    Json.fieldsWithin record.fields payloadDepth (fuel + 1)
      ["correlation_id", "timestamp", "message_type", "message_id"]
      (ofEnvelope e .null) (writeString "payload" (0x3a :: payload)) := by
  have id (rest) := Json.readParsed_writeString "a formatted UUID string"
    (parseUuid_text e.messageId) rest
  have time (rest) := Json.readParsed_writeString "an RFC 3339 formatted date and time string"
    (parseTime_text e.timestamp) rest
  obtain ⟨fuel, count⟩ := Nat.exists_eq_add_of_le (length_header e payload)
  have steps : (header e payload).length + 1 = fuel + 1 + 4 := by omega
  refine ⟨fuel, ?_⟩
  rw [steps, header]
  rw [Json.fieldsWithin_textMember rfl rfl (fun rest => congrArg (Except.map _) (id rest))
    (Json.starts_textMember ..)]
  rw [Json.fieldsWithin_textMember rfl rfl
    (fun rest => congrArg (Except.map _) (Json.readString_writeString _ rest))
    (Json.starts_textMember ..)]
  rw [Json.fieldsWithin_textMember rfl rfl (fun rest => congrArg (Except.map _) (time rest))
    (Json.starts_textMember ..)]
  rw [Json.fieldsWithin_textMember rfl rfl
    (fun rest => congrArg (Except.map _) (Json.readString_writeString _ rest))
    (Json.starts_writeString ..)]
  rfl

/-- An envelope whose payload is not too deep is read with the value that is read of its payload. -/
theorem read_bytes {e : Envelope} (shallow : e.payload.json.depth ≤ payloadDepth) :
    record.readWhole unread e.bytes = .ok (ofEnvelope e e.payload.json.reread.value) := by
  have ends : Json.EndsNumber [0x7d] := .cons (by decide) []
  have value := Json.readValue_write shallow ends
  obtain ⟨fuel, header⟩ := fieldsWithin_header e (e.payload.json.write [0x7d])
  have fields := header.trans (Json.fieldsWithin_last rfl rfl (congrArg (Except.map _) value))
  have whole : record.read Json.deepest unread e.bytes =
      .ok (ofEnvelope e e.payload.json.reread.value, []) := by
    rw [bytes_eq]
    exact Json.Record.read_ok (Json.starts_textMember ..) fields rfl
  rw [Json.Record.readWhole, whole]
  rfl

/-- An envelope whose payload is too deep is refused. -/
theorem read_bytes_tooDeep {e : Envelope} (deep : payloadDepth < e.payload.json.depth) :
    ∃ rest, record.readWhole unread e.bytes = .error ⟨.tooDeep, rest⟩ := by
  obtain ⟨rest, value⟩ := Json.readValue_tooDeep deep [0x7d]
  obtain ⟨fuel, header⟩ := fieldsWithin_header e (e.payload.json.write [0x7d])
  have fields := header.trans (Json.fieldsWithin_error rfl rfl (congrArg (Except.map _) value))
  have whole : record.read Json.deepest unread e.bytes = .error ⟨.tooDeep, rest⟩ := by
    rw [bytes_eq]
    exact Json.Record.read_error (Json.starts_textMember ..) fields
  exact ⟨rest, by rw [Json.Record.readWhole, whole]; rfl⟩

end Wire

namespace Envelope

theorem read_bytes {e : Envelope} (shallow : e.payload.json.depth ≤ Wire.payloadDepth) :
    Envelope.read e.bytes = .ok (Wire.ofEnvelope e e.payload.json.reread.value).envelope := by
  rw [Envelope.read, Wire.read_bytes shallow]
  rfl

theorem read_bytes_tooDeep {e : Envelope} (deep : Wire.payloadDepth < e.payload.json.depth) :
    ∃ rest, Envelope.read e.bytes = .error ⟨.tooDeep, rest⟩ := by
  obtain ⟨rest, refused⟩ := Wire.read_bytes_tooDeep deep
  exact ⟨rest, by rw [Envelope.read, refused]; rfl⟩

theorem ofEnvelope_eq_iff {e : Envelope} {v : Json.Value} :
    (Wire.ofEnvelope e v).envelope = e ↔ Payload.ofWire e.messageType v = e.payload := by
  constructor
  · intro same
    exact congrArg Envelope.payload same
  · intro payload
    obtain ⟨messageId, messageType, timestamp, correlationId, p⟩ := e
    exact congrArg (Envelope.mk messageId messageType timestamp correlationId) payload

/-- The envelope with its payload as it is read where it is written. -/
def reread (e : Envelope) : Envelope :=
  { e with payload := e.payload.reread }

theorem reread_eq_self_iff (e : Envelope) : e.reread = e ↔ e.payload.json.Restored := by
  rw [← e.payload.reread_eq_self_iff]
  constructor
  · exact congrArg Envelope.payload
  · intro same
    rw [reread, same]

/-- What comes back is the same envelope only if every double of its payload is restored. -/
theorem restored_of_ofEnvelope {e : Envelope}
    (same : (Wire.ofEnvelope e e.payload.json.reread.value).envelope = e) :
    e.payload.json.Restored := by
  have payload := ofEnvelope_eq_iff.1 same
  rw [Json.value_reread] at payload
  have kept : Payload.ofWire e.messageType e.payload.json.value = e.payload := by
    refine Payload.eq_of_value ?_ (Payload.finiteDoubles_ofWire ..) ?_ (Payload.value_ofWire ..)
    · rw [← Payload.kind?_reread, ← Payload.ofWire_reread, payload]
    · rw [← payload]
      exact Payload.finiteDoubles_ofWire ..
  rw [Payload.ofWire_reread, kept] at payload
  exact e.payload.reread_eq_self_iff.1 payload

/-- An envelope that is written and read again is refused if the value of its payload has more than
126 levels, and only then. Otherwise all but the payload is as it was, and the payload is what its
value, with the doubles that are read of its own, is taken for under the message type. If every double
is read as the one nearest to its text, this is what the value itself is taken for, and the envelope is
the same one if its payload is typed under this message type with finite doubles or any other value that
is not taken for a typed one; with a double that is read as any other it is another envelope. -/
theorem round_trip (e : Envelope) :
    ((∃ failure, Envelope.read e.bytes = .error failure) ↔
      126 < e.payload.json.value.json.depth) ∧
    (e.payload.json.value.json.depth ≤ 126 → ∃ decoded, Envelope.read e.bytes = .ok decoded ∧
      decoded.messageId = e.messageId ∧ decoded.messageType = e.messageType ∧
      decoded.timestamp = e.timestamp ∧ decoded.correlationId = e.correlationId ∧
      decoded.payload = Payload.ofWire e.messageType e.payload.json.value.reread ∧
      (e.payload.json.Restored →
        decoded.payload = Payload.ofWire e.messageType e.payload.json.value ∧
        (decoded = e ↔
          (e.payload.messageType? = some e.messageType ∧ e.payload.FiniteDoubles) ∨
          ∃ v, e.payload = .custom v ∧ (Payload.ofWire e.messageType v).kind? = none)) ∧
      (¬e.payload.json.Restored → decoded ≠ e)) := by
  rw [e.payload.depth_value]
  refine ⟨⟨?_, ?_⟩, ?_⟩
  · rintro ⟨failure, refused⟩
    apply Classical.byContradiction
    intro shallow
    rw [read_bytes (Nat.not_lt.1 shallow)] at refused
    cases refused
  · intro deep
    obtain ⟨rest, refused⟩ := Wire.read_bytes_tooDeep deep
    exact ⟨⟨.tooDeep, rest⟩, by rw [Envelope.read, refused]; rfl⟩
  · intro shallow
    refine ⟨_, read_bytes shallow, rfl, rfl, rfl, rfl, ?_, fun restored => ?_, fun rough same => ?_⟩
    · exact congrArg (Payload.ofWire e.messageType) (Json.value_reread _)
    · rw [(Json.reread_eq_self_iff _).2 restored, ofEnvelope_eq_iff]
      exact ⟨rfl, Payload.ofWire_value_eq_iff e.messageType e.payload⟩
    · exact rough (restored_of_ofEnvelope same)

/-- A request for daily data under some message type. -/
def dailyData (messageType : String) : Envelope where
  messageId := .zero
  messageType := messageType
  timestamp := Wire.epoch
  correlationId := "daily"
  payload := .dataRequest ⟨"IF2406", "2024-01-01", "2024-02-01", "1d"⟩

/-- A backtest with this slippage and the built-in settings otherwise. -/
def backtestOf (slippage : Binary64) : Envelope where
  messageId := .zero
  messageType := "backtest.request"
  timestamp := Wire.epoch
  correlationId := "plain"
  payload := .backtest {
    strategyId := "s"
    startDate := "2024-01-01"
    endDate := "2024-02-01"
    initialCapital := .ofNat 100000 (by decide)
    instruments := ["IF2406"]
    execution := { Defaults.builtIn.execution with slippage }
    risk := Defaults.builtIn.risk }

/-- Under its own message type a request for data comes back, and under another one its value does. A
backtest comes back with a slippage that is restored, and with one that is not another backtest does. -/
theorem daily_data_round_trip :
    Envelope.read (dailyData "data.request").bytes = .ok (dailyData "data.request") ∧
    (∃ decoded, Envelope.read (dailyData "data.reply").bytes = .ok decoded ∧
      decoded ≠ dailyData "data.reply") ∧
    Envelope.read (backtestOf (.ofDecimal false 1 (-3))).bytes =
      .ok (backtestOf (.ofDecimal false 1 (-3))) ∧
    ∃ decoded, Envelope.read (backtestOf (.ofDecimal false 49999999999999996 (-18))).bytes =
      .ok decoded ∧ decoded ≠ backtestOf (.ofDecimal false 49999999999999996 (-18)) := by
  refine ⟨?_, ?_, ?_, ?_⟩
  · obtain ⟨decoded, read, _, _, _, _, _, same, _⟩ :=
      (round_trip (dailyData "data.request")).2 (by decide)
    rw [(same (by decide)).2.2 (.inl ⟨rfl, trivial⟩)] at read
    exact read
  · obtain ⟨decoded, read, _, _, _, _, _, same, _⟩ :=
      (round_trip (dailyData "data.reply")).2 (by decide)
    refine ⟨decoded, read, fun eq => ?_⟩
    rcases (same (by decide)).2.1 eq with ⟨type, _⟩ | ⟨v, custom, _⟩
    · exact absurd type (by decide)
    · cases custom
  · obtain ⟨decoded, read, _, _, _, _, _, same, _⟩ :=
      (round_trip (backtestOf (.ofDecimal false 1 (-3)))).2 (by decide +kernel)
    have typed : (backtestOf (.ofDecimal false 1 (-3))).payload.FiniteDoubles := by
      refine ⟨?_, ?_, ?_, ?_⟩
      all_goals decide +kernel
    rw [(same (by decide +kernel)).2.2 (.inl ⟨rfl, typed⟩)] at read
    exact read
  · obtain ⟨decoded, read, _, _, _, _, _, _, other⟩ :=
      (round_trip (backtestOf (.ofDecimal false 49999999999999996 (-18)))).2 (by decide +kernel)
    exact ⟨decoded, read, other (by decide +kernel)⟩

end Envelope

end TopicGateway.Message
