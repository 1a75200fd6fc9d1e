import TopicGateway.Broker.Memory

/-! Many sessions on one broker. A pool is a broker in memory with every session that was ever
opened on it. Sessions are numbered in the order of their opening and can be used until they are
closed. -/

namespace TopicGateway.Broker

structure PoolSession where
  topology : Topology
  isOpen : Bool
  deriving DecidableEq

structure Pool where
  broker : Memory
  sessions : List PoolSession
  deriving DecidableEq

inductive PoolStep where
  | failOpen (on : Bool)
  | failPublish (on : Bool)
  | openSession (topology : Topology)
  | publish (session : Nat) (m : Outgoing)
  | close (session : Nat)
  | publishFresh (topology : Topology) (m : Outgoing)

inductive PoolReply where
  | done
  | session (number : Nat)
  | published (success : Bool)
  | fault (f : Fault)
  deriving DecidableEq

namespace Pool

def fresh : Pool := ⟨.fresh, []⟩

def openSession? (p : Pool) (number : Nat) : Option PoolSession :=
  p.sessions[number]?.filter (·.isOpen)

/-- One step; there is none on a session that is not open. -/
def step (p : Pool) : PoolStep → Option (PoolReply × Pool)
  | .failOpen on => some (.done, { p with broker.failOpen := on })
  | .failPublish on => some (.done, { p with broker.failPublish := on })
  | .openSession topology =>
    match Memory.openSession topology p.broker with
    | (.ok topology, broker) =>
      some (.session p.sessions.length, ⟨broker, p.sessions ++ [⟨topology, true⟩]⟩)
    | (.error fault, broker) => some (.fault fault, { p with broker := broker })
  | .publish number m =>
    (p.openSession? number).map fun session =>
      match Memory.publish session.topology m p.broker with
      | (.ok (), broker) => (.done, { p with broker := broker })
      | (.error fault, broker) => (.fault fault, { p with broker := broker })
  | .close number =>
    (p.openSession? number).map fun session =>
      (.done, ⟨(Memory.close session.topology p.broker).2,
        p.sessions.set number { session with isOpen := false }⟩)
  | .publishFresh topology m =>
    match (Memory.connector topology).publishFresh m p.broker with
    | (.ok published, broker) => some (.published published, { p with broker := broker })
    | (.error fault, broker) => some (.fault fault, { p with broker := broker })

end Pool

end TopicGateway.Broker
