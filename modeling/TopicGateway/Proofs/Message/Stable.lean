import TopicGateway.Proofs.Json.Agreement
import TopicGateway.Proofs.Json.Depth
import TopicGateway.Proofs.Message.Envelope
import TopicGateway.Proofs.Message.Exact

/-! Whatever form an envelope was read from, writing it and reading it again gives the same envelope,
and its payload is written as the value it was read from. -/
namespace TopicGateway.Message

namespace Wire

def payloadField : Json.Field Wire :=
  ⟨"payload", true, fun depth w input =>
    (Json.readValue depth input).map fun (x, rest) => ({ w with payload := x.value }, rest)⟩

theorem payloadField_read {depth : Nat} {w next : Wire} {input rest : List UInt8}
    (read : payloadField.read depth w input = .ok (next, rest)) :
    ∃ j, Json.readValue depth input = .ok (j, rest) ∧ next = { w with payload := j.value } :=
  Json.eq_of_map read

theorem fields_eq : record.fields = [
    Json.textField "message_id" true "a formatted UUID string" parseUuid
      fun w x => { w with messageId := x },
    Json.textField "message_type" true "a string" .ok fun w x => { w with messageType := x },
    Json.textField "timestamp" true "an RFC 3339 formatted date and time string" parseTime
      fun w x => { w with timestamp := x },
    Json.textField "correlation_id" true "a string" .ok fun w x => { w with correlationId := x },
    payloadField] := by
  rfl

theorem payload_agrees {depth : Nat} : ∀ field ∈ record.fields,
    field.Agrees depth "payload" Wire.payload Json.value := by
  rw [fields_eq]
  simp only [List.forall_mem_cons, List.not_mem_nil, IsEmpty.forall_iff, implies_true, and_true]
  refine ⟨?_, ?_, ?_, ?_, ?_⟩
  · exact Json.textField_agrees (fun _ _ => rfl) (by decide)
  · exact Json.textField_agrees (fun _ _ => rfl) (by decide)
  · exact Json.textField_agrees (fun _ _ => rfl) (by decide)
  · exact Json.textField_agrees (fun _ _ => rfl) (by decide)
  · intro w next input tail j rest read reads
    obtain ⟨k, value, rfl⟩ := payloadField_read read
    obtain ⟨rfl, rfl⟩ := (Json.reads_of_readValue value).unique reads
    exact ⟨rfl, rfl⟩

/-- The payload can be written inside an envelope. -/
def Shallow (w : Wire) : Prop :=
  w.payload.json.depth ≤ payloadDepth

theorem shallow_kept : ∀ field ∈ record.fields, field.Keeps payloadDepth Shallow := by
  rw [fields_eq]
  simp only [List.forall_mem_cons, List.not_mem_nil, IsEmpty.forall_iff, implies_true, and_true]
  refine ⟨?_, ?_, ?_, ?_, ?_⟩
  · exact Json.textField_keeps fun _ _ shallow => shallow
  · exact Json.textField_keeps fun _ _ shallow => shallow
  · exact Json.textField_keeps fun _ _ shallow => shallow
  · exact Json.textField_keeps fun _ _ shallow => shallow
  · intro w next input rest _ read
    obtain ⟨j, value, rfl⟩ := payloadField_read read
    exact Json.depth_value_of_readValue value

variable {body : List UInt8} {w : Wire}

theorem read_of_readWhole (read : record.readWhole unread body = .ok w) :
    ∃ rest, record.read Json.deepest unread body = .ok (w, rest) :=
  Json.of_onlyBlankLeft read

theorem shallow_of_readWhole (read : record.readWhole unread body = .ok w) : w.Shallow := by
  obtain ⟨rest, read⟩ := read_of_readWhole read
  exact (Json.Record.reads_of_read read).keeps shallow_kept (Nat.zero_le _)

/-- Where the body is a JSON value, the payload is the value of its last member of that name or of its
fifth item. -/
theorem payload_of_read {j : Json} (read : record.readWhole unread body = .ok w)
    (written : Json.read body = .ok j) :
    ∃ payload, record.member? "payload" j = some payload ∧ w.payload = payload.value := by
  obtain ⟨rest, read⟩ := read_of_readWhole read
  obtain ⟨tail, value⟩ := Json.of_onlyBlankLeft written
  exact ((Json.Record.reads_of_read read).agrees payload_agrees (by decide) (by decide) (by decide)
    (Json.reads_of_readValue value)).2

end Wire

namespace Envelope

theorem read_eq_ok {body : List UInt8} {e : Envelope} (read : Envelope.read body = .ok e) :
    ∃ w, Wire.record.readWhole .unread body = .ok w ∧ w.envelope = e := by
  rw [Envelope.read] at read
  cases wire : Wire.record.readWhole .unread body with
  | error failure =>
    rw [wire] at read
    cases read
  | ok w =>
    rw [wire] at read
    exact ⟨w, rfl, Except.ok.inj read⟩

/-- What has been read from a body, in whatever form, has a payload that is written as the value that
was read; in a body that is a JSON value this is the last member of that name or the fifth item. From
the body it is written as it is read again, with the doubles that are read of its own, so as the same
envelope just where every double of its payload is restored. -/
theorem read_again {body : List UInt8} {e : Envelope} (read : Envelope.read body = .ok e) :
    (∃ w, Wire.record.readWhole .unread body = .ok w ∧ w.envelope = e ∧
      e.payload.json.value = w.payload) ∧
    (∀ j, Json.read body = .ok j → ∃ payload, Wire.record.member? "payload" j = some payload ∧
      e.payload.json.value = payload.value) ∧
    Envelope.read e.bytes = .ok e.reread ∧
    (Envelope.read e.bytes = .ok e ↔ e.payload.json.Restored) := by
  obtain ⟨w, wire, rfl⟩ := read_eq_ok read
  have written : w.envelope.payload.json.value = w.payload :=
    Payload.value_ofWire w.messageType w.payload
  have again : Envelope.read w.envelope.bytes = .ok w.envelope.reread := by
    have shallow : w.envelope.payload.json.depth ≤ Wire.payloadDepth := by
      rw [← Payload.depth_value, written]
      exact Wire.shallow_of_readWhole wire
    rw [read_bytes shallow, Json.value_reread, written]
    refine congrArg (fun p => Except.ok { w.envelope with payload := p }) ?_
    exact Payload.ofWire_reread w.messageType w.payload
  refine ⟨⟨w, wire, rfl, written⟩, ?_, again, ?_⟩
  · intro j json
    obtain ⟨payload, member, same⟩ := Wire.payload_of_read wire json
    exact ⟨payload, member, written.trans same⟩
  · rw [again, Except.ok.injEq, reread_eq_self_iff]

def numberMessage (spelling : String) : List UInt8 :=
  Text.Utf8.encode ("\x7b\"message_id\":\"00000000-0000-0000-0000-000000000000\"," ++
    "\"message_type\":\"note\",\"timestamp\":\"1970-01-01T00:00:00Z\"," ++
    "\"correlation_id\":\"n\",\"payload\":" ++ spelling ++ "\x7d")

def numberEnvelope (digits : Nat) (exponent : Int) : Envelope where
  messageId := .zero
  messageType := "note"
  timestamp := Wire.epoch
  correlationId := "n"
  payload := .custom (Json.nearest digits exponent).value

/-- The number that is read is written with another last digit, and what is read of that with yet
another one. -/
theorem number_read_as_neighbour :
    Envelope.read (numberMessage "9.205966767552478") =
      .ok (numberEnvelope 9205966767552479 (-15)) ∧
    Envelope.read (numberEnvelope 9205966767552479 (-15)).bytes =
      .ok (numberEnvelope 920596676755248 (-14)) ∧
    numberEnvelope 920596676755248 (-14) ≠ numberEnvelope 9205966767552479 (-15) := by
  refine ⟨?_, ?_, ?_⟩
  all_goals decide +kernel

/-- A request for daily data as another writer may put it: a member that is no field, one that is
given twice, and a time with an offset. -/
def looseDailyData : List UInt8 :=
  Text.Utf8.encode "\x7b\"trace\": [1e2], \"payload\": \x7b\"start_date\": \"?\",
    \"frequency\": \"1d\", \"instrument_id\": \"IF2406\", \"end_date\": \"2024-02-01\",
    \"start_date\": \"2024-01-01\"\x7d, \"timestamp\": \"1970-01-01 08:00:00+08:00\",
    \"message_id\": \"00000000000000000000000000000000\", \"correlation_id\": \"daily\",
    \"message_type\": \"data.request\"\x7d"

theorem loose_daily_data_read_again :
    Envelope.read looseDailyData = .ok (dailyData "data.request") ∧
    Envelope.read (dailyData "data.request").bytes = .ok (dailyData "data.request") := by
  have read : Envelope.read looseDailyData = .ok (dailyData "data.request") := by decide +kernel
  exact ⟨read, (read_again read).2.2.2.2 (by decide)⟩

end Envelope

end TopicGateway.Message
