import TopicGateway.Json.Printer
import TopicGateway.Message.Payload
import TopicGateway.Uuid

/-! Message envelopes. What goes over the wire: a payload with its identity. An envelope is written
as a JSON object and read from an object or from a list of its five members; members beyond these
are passed over. -/

namespace TopicGateway.Message

structure Envelope where
  messageId : Uuid
  messageType : String
  timestamp : Time.Instant
  correlationId : String
  payload : Payload
  deriving DecidableEq

structure Stamp where
  /-- Used where no correlation id is supplied. -/
  correlationId : Uuid
  messageId : Uuid
  timestamp : Time.Instant
  deriving DecidableEq

namespace Envelope

/-- A new envelope; a blank correlation id counts as none. -/
def build (stamp : Stamp) (messageType : String) (payload : Payload)
    (correlationId : Option String) : Envelope where
  messageId := stamp.messageId
  messageType := messageType
  timestamp := stamp.timestamp
  correlationId := (Text.nonBlank correlationId).getD stamp.correlationId.text
  payload := payload

def json (e : Envelope) : Json :=
  .object [
    ("message_id", .string e.messageId.text),
    ("message_type", .string e.messageType),
    ("timestamp", .string e.timestamp.text),
    ("correlation_id", .string e.correlationId),
    ("payload", e.payload.json)]

def bytes (e : Envelope) : List UInt8 :=
  e.json.bytes

end Envelope

structure Wire where
  messageId : Uuid
  messageType : String
  timestamp : Time.Instant
  correlationId : String
  payload : Json.Value

namespace Wire

def epoch : Time.Instant :=
  ⟨⟨1970, 1, 1, by decide, by decide, by decide⟩, 0, 0, 0, 0, by decide, by decide, by decide,
    by decide⟩

/-- What stands in the place of members before they are read. -/
def unread : Wire where
  messageId := .zero
  messageType := ""
  timestamp := epoch
  correlationId := ""
  payload := .null

def parseUuid (s : String) : Except String Uuid :=
  (Uuid.parse s).mapError fun e => "UUID parsing failed: " ++ e.message

def parseTime (s : String) : Except String Time.Instant :=
  (Time.Instant.parse s).mapError Time.Fault.message

def record : Json.Record Wire where
  name := "WireEnvelope"
  fields := [
    ⟨"message_id", true, fun _ w input =>
      (Json.readParsed "a formatted UUID string" parseUuid input).map fun (x, rest) =>
        ({ w with messageId := x }, rest)⟩,
    ⟨"message_type", true, fun _ w input =>
      (Json.readString input).map fun (x, rest) => ({ w with messageType := x }, rest)⟩,
    ⟨"timestamp", true, fun _ w input =>
      (Json.readParsed "an RFC 3339 formatted date and time string" parseTime input).map
        fun (x, rest) => ({ w with timestamp := x }, rest)⟩,
    ⟨"correlation_id", true, fun _ w input =>
      (Json.readString input).map fun (x, rest) => ({ w with correlationId := x }, rest)⟩,
    ⟨"payload", true, fun depth w input =>
      (Json.readValue depth input).map fun (x, rest) => ({ w with payload := x.value }, rest)⟩]

def envelope (w : Wire) : Envelope where
  messageId := w.messageId
  messageType := w.messageType
  timestamp := w.timestamp
  correlationId := w.correlationId
  payload := Payload.ofWire w.messageType w.payload

end Wire

def Envelope.read (body : List UInt8) : Except Json.Failure Envelope :=
  (Wire.record.readWhole .unread body).map Wire.envelope

end TopicGateway.Message
