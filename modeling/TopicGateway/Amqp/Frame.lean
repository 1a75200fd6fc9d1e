import TopicGateway.Broker.Session
import TopicGateway.Broker.Topology

/-! What a client sends to a broker. The methods of AMQP 0-9-1 that are used here, with their
arguments, and the frames of a message's content. A body is cut into frames of limited size. -/

namespace TopicGateway.Amqp

open Broker (Properties)

abbrev Table := List UInt8

structure ExchangeOptions where
  passive : Bool := false
  durable : Bool := false
  autoDelete : Bool := false
  internal : Bool := false
  noWait : Bool := false
  deriving DecidableEq

structure QueueOptions where
  passive : Bool := false
  durable : Bool := false
  exclusive : Bool := false
  autoDelete : Bool := false
  noWait : Bool := false
  deriving DecidableEq

structure BindOptions where
  noWait : Bool := false
  deriving DecidableEq

structure PublishOptions where
  mandatory : Bool := false
  immediate : Bool := false
  deriving DecidableEq

/-- The properties of a message's content, in the order in which they are written. -/
structure BasicProperties where
  contentType : Option String := none
  contentEncoding : Option String := none
  headers : Option Table := none
  deliveryMode : Option Nat := none
  priority : Option Nat := none
  correlationId : Option String := none
  replyTo : Option String := none
  expiration : Option String := none
  messageId : Option String := none
  timestamp : Option Nat := none
  type : Option String := none
  userId : Option String := none
  appId : Option String := none
  clusterId : Option String := none
  deriving DecidableEq

namespace BasicProperties

def ofProperties (p : Properties) : BasicProperties where
  deliveryMode := some p.deliveryMode
  contentType := some p.contentType
  messageId := some p.messageId
  correlationId := some p.correlationId
  timestamp := some p.timestamp

def present (p : BasicProperties) : List Bool := [
  p.contentType.isSome, p.contentEncoding.isSome, p.headers.isSome, p.deliveryMode.isSome,
  p.priority.isSome, p.correlationId.isSome, p.replyTo.isSome, p.expiration.isSome,
  p.messageId.isSome, p.timestamp.isSome, p.type.isSome, p.userId.isSome, p.appId.isSome,
  p.clusterId.isSome]

/-- The word that says which properties follow. The first one has the highest of sixteen bits, and
the two lowest belong to none. -/
def flags (p : BasicProperties) : Nat :=
  4 * p.present.foldl (fun word isSet => 2 * word + isSet.toNat) 0

end BasicProperties

inductive Frame where
  | protocolHeader
  | startOk (connectionName mechanism response : String)
  | tuneOk (heartbeat : UInt16)
  | openConnection (vhost : String)
  | openChannel
  | declareExchange (name kind : String) (options : ExchangeOptions) (arguments : Table)
  | declareQueue (name : String) (options : QueueOptions) (arguments : Table)
  | bindQueue (queue exchange pattern : String) (options : BindOptions) (arguments : Table)
  | publish (exchange routingKey : String) (options : PublishOptions)
  | contentHeader (bodySize flags : Nat) (properties : BasicProperties)
  | contentBody (bytes : List UInt8)
  | closeChannel (code : Nat) (reason : String)
  | closeConnection (code : Nat) (reason : String)
  deriving DecidableEq

/-- The largest frame that a peer and its client agree on, in bytes. -/
def frameMax : Nat := 131072

def frameOverhead : Nat := 8

def bodyMax : Nat := frameMax - frameOverhead

/-- The bytes in pieces of at most `size + 1`. -/
def piecesWithin (size : Nat) : Nat → List UInt8 → List (List UInt8)
  | 0, _ => []
  | _ + 1, [] => []
  | fuel + 1, b :: bytes =>
    (b :: bytes.take size) :: piecesWithin size fuel (bytes.drop size)

def bodyFrames (body : List UInt8) : List Frame :=
  (piecesWithin (bodyMax - 1) body.length body).map .contentBody

def messageFrames (exchange : String) (m : Broker.Outgoing) : List Frame :=
  let body := m.envelope.bytes
  let properties := BasicProperties.ofProperties m.properties
  .publish exchange m.routingKey {} ::
    .contentHeader body.length properties.flags properties ::
    bodyFrames body

/-- A declaration, and what it is called where it fails. -/
structure Declaration where
  frame : Frame
  item : String
  deriving DecidableEq

/-- The exchange, then the queues, then the bindings. The exchange is a topic exchange whatever kind
the topology gives it. -/
def declarations (t : Broker.Topology) : List Declaration :=
  ⟨.declareExchange t.exchange.name "topic" { durable := t.exchange.durable } [],
      "exchange " ++ t.exchange.name⟩ ::
    (t.queues.map fun q => ⟨.declareQueue q.name { durable := q.durable } [], "queue " ++ q.name⟩) ++
    (t.bindings.map fun b =>
      ⟨.bindQueue b.queue t.exchange.name b.pattern {} [],
        "binding " ++ b.pattern ++ " -> " ++ b.queue⟩)

end TopicGateway.Amqp
