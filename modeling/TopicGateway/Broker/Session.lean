import TopicGateway.Broker.Fault
import TopicGateway.Message.Envelope

/-! Broker sessions. A connector opens sessions on a broker, whose state is `σ`; a session is a
value of `ρ`, and what may fail is told by a value of `φ`. One message is published on a session of
its own: open, publish once, close, whatever the publishing answered. -/

namespace TopicGateway.Broker

open Message (Envelope)

/-- A message on its way out: where to, what, and the time of sending in seconds since 1970. -/
structure Outgoing where
  routingKey : String
  envelope : Envelope
  sentAt : Int
  deriving DecidableEq

structure Properties where
  deliveryMode : Nat
  contentType : String
  messageId : String
  correlationId : String
  /-- Seconds since 1970. -/
  timestamp : Nat
  deriving DecidableEq

/-- Messages are kept by the broker until they are delivered. -/
def persistent : Nat := 2

def Outgoing.properties (m : Outgoing) : Properties where
  deliveryMode := persistent
  contentType := "application/json"
  messageId := m.envelope.messageId.text
  correlationId := m.envelope.correlationId
  timestamp := m.sentAt.toNat

structure Connector (σ ρ : Type) (φ : Type := Fault) where
  openSession : σ → Except φ ρ × σ
  publish : ρ → Outgoing → σ → Except φ Unit × σ
  close : ρ → σ → Except φ Unit × σ

namespace Connector

variable {σ ρ φ : Type} (c : Connector σ ρ φ)

def tryPublish (session : ρ) (m : Outgoing) (broker : σ) : Bool × σ :=
  match c.publish session m broker with
  | (.ok (), broker) => (true, broker)
  | (.error _, broker) => (false, broker)

/-- Opens a session, publishes once and closes it. Only a failure to open is a fault; how closing
ends does not matter. -/
def publishFresh (m : Outgoing) (broker : σ) : Except φ Bool × σ :=
  match c.openSession broker with
  | (.error fault, broker) => (.error fault, broker)
  | (.ok session, broker) =>
    let (published, broker) := c.tryPublish session m broker
    let (_, broker) := c.close session broker
    (.ok published, broker)

end Connector

end TopicGateway.Broker
