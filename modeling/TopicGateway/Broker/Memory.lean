import TopicGateway.Broker.Session
import TopicGateway.Broker.Topology

/-! A broker in memory. It keeps the topology that was declared first and refuses any other, counts
what happens, and records every message with the queues it goes to. Opening and publishing can be
made to fail. -/

namespace TopicGateway.Broker

structure Published where
  routingKey : String
  envelope : Message.Envelope
  body : List UInt8
  properties : Properties
  routedTo : List String
  deriving DecidableEq

structure Memory where
  declared : Option Topology
  declarations : Nat
  opened : Nat
  closed : Nat
  /-- Messages in the order of their publishing. -/
  published : List Published
  failOpen : Bool
  failPublish : Bool
  deriving DecidableEq

namespace Memory

def fresh : Memory where
  declared := none
  declarations := 0
  opened := 0
  closed := 0
  published := []
  failOpen := false
  failPublish := false

/-- Counts a session whose topology is the declared one from now on. -/
def accept (broker : Memory) (topology : Topology) : Memory :=
  { broker with
    declared := some topology
    declarations := broker.declarations + 1
    opened := broker.opened + 1 }

/-- Opens a session that declares its topology; a session is known by that topology. -/
def openSession (topology : Topology) (broker : Memory) : Except Fault Topology × Memory :=
  if broker.failOpen then (.error (.unavailable "connection refused"), broker)
  else
    match broker.declared with
    | none => (.ok topology, broker.accept topology)
    | some existing =>
      if existing = topology then (.ok topology, broker.accept topology)
      else
        (.error (.topologyConflict ("exchange " ++ existing.exchange.name ++
          " already declared with different parameters")), broker)

def record (topology : Topology) (m : Outgoing) : Published where
  routingKey := m.routingKey
  envelope := m.envelope
  body := m.envelope.bytes
  properties := m.properties
  routedTo := topology.matchingQueues m.routingKey

def publish (session : Topology) (m : Outgoing) (broker : Memory) : Except Fault Unit × Memory :=
  if broker.failPublish then (.error (.unavailable "channel closed"), broker)
  else (.ok (), { broker with published := broker.published ++ [record session m] })

def close (_ : Topology) (broker : Memory) : Except Fault Unit × Memory :=
  (.ok (), { broker with closed := broker.closed + 1 })

def connector (topology : Topology) : Connector Memory Topology where
  openSession := openSession topology
  publish := publish
  close := close

end Memory

end TopicGateway.Broker
