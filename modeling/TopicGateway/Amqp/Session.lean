import TopicGateway.Amqp.Frame
import TopicGateway.Broker.Access

/-! Sessions over AMQP. A session has a connection and a channel of its own. Opening it declares the
topology, each item once the one before it was accepted; where one is refused the connection is
closed again. The state of the broker is what it received so far. -/

namespace TopicGateway.Amqp

open Broker (Access Connector Fault Outgoing Topology TransportFault)

/-- What becomes of the frames of a message: all of them arrive, or the first ones do before the
sending fails or no longer goes on. -/
inductive Sending where
  | whole
  | broken (arrived : Nat) (cause : TransportFault)
  | stalled (arrived : Nat)
  deriving DecidableEq

def Sending.frames (frames : List Frame) : Sending → List Frame
  | .whole => frames
  | .broken arrived _ | .stalled arrived => frames.take arrived

/-- What becomes of a frame that ends a channel or a connection. One that is lost does not arrive. -/
inductive Parting where
  | answered
  | failed (cause : TransportFault)
  | lost (cause : TransportFault)
  deriving DecidableEq

/-- How a peer behaves. Everything that it received so far goes into each of its decisions. -/
structure Conduct where
  /-- Whether it refuses the last frame that it received. -/
  refusal : List Frame → Option TransportFault
  sending : List Frame → List Frame → Sending
  parting : List Frame → Frame → Parting

def Conduct.accepting : Conduct where
  refusal _ := none
  sending _ _ := .whole
  parting _ _ := .answered

inductive Peer where
  | unreachable (reason : String)
  | answering (conduct : Conduct)

/-- Account name and password for the mechanism `PLAIN`. -/
def plainResponse (a : Access) : String :=
  "\x00" ++ a.username ++ "\x00" ++ a.password

structure Session where
  exchange : String
  blockedTimeout : Time.Span
  deriving DecidableEq

namespace Conduct

variable (conduct : Conduct)

def ask (frame : Frame) (received : List Frame) : Except TransportFault Unit × List Frame :=
  let received := received ++ [frame]
  match conduct.refusal received with
  | some cause => (.error cause, received)
  | none => (.ok (), received)

def connect (a : Access) (received : List Frame) : Except TransportFault Unit × List Frame :=
  let start := received ++ [.protocolHeader]
  match conduct.ask (.startOk a.connectionName "PLAIN" (plainResponse a)) start with
  | (.error cause, received) => (.error cause, received)
  | (.ok (), received) =>
    conduct.ask (.openConnection a.vhost) (received ++ [.tuneOk a.heartbeat])

def declare : List Declaration → List Frame →
    Except (Declaration × TransportFault) Unit × List Frame
  | [], received => (.ok (), received)
  | d :: ds, received =>
    match conduct.ask d.frame received with
    | (.error cause, received) => (.error (d, cause), received)
    | (.ok (), received) => declare ds received

/-- What closes a connection after this fault. It is still there only where no more than a channel
was closed. -/
def givingUp (reason : String) : TransportFault → List Frame
  | .channelClosed _ => [.closeConnection 200 reason]
  | .io _ | .connectionClosed _ => []

def openSession (a : Access) (t : Topology) (received : List Frame) :
    Except Fault Session × List Frame :=
  match conduct.connect a received with
  | (.error cause, received) => (.error (.connect a.target cause), received)
  | (.ok (), received) =>
    match conduct.ask .openChannel received with
    | (.error cause, received) =>
      (.error (.channel cause), received ++ givingUp "channel open failed" cause)
    | (.ok (), received) =>
      match conduct.declare (declarations t) received with
      | (.error (d, cause), received) =>
        (.error (.topology d.item cause),
          received ++ givingUp "topology declaration failed" cause)
      | (.ok (), received) =>
        (.ok ⟨t.exchange.name, .ofSeconds a.blockedTimeout.toNat⟩, received)

end Conduct

/-- A sending that does not go on is given up after `limit`. -/
def withinBlockedTimeout (limit : Time.Span) : Sending → Except Fault Unit
  | .whole => .ok ()
  | .broken _ cause => .error (.publish cause)
  | .stalled _ => .error (.blocked limit)

namespace Conduct

variable (conduct : Conduct)

def publish (session : Session) (m : Outgoing) (received : List Frame) :
    Except Fault Unit × List Frame :=
  let frames := messageFrames session.exchange m
  let sending := conduct.sending received frames
  (withinBlockedTimeout session.blockedTimeout sending, received ++ sending.frames frames)

def leave (frame : Frame) (received : List Frame) : Except TransportFault Unit × List Frame :=
  match conduct.parting received frame with
  | .answered => (.ok (), received ++ [frame])
  | .failed cause => (.error cause, received ++ [frame])
  | .lost cause => (.error cause, received)

/-- Closes the channel and then the connection, which closes its channels too: what fails at the
channel is told only where the connection was closed. -/
def close (_ : Session) (received : List Frame) : Except Fault Unit × List Frame :=
  let (channel, received) := conduct.leave (.closeChannel 200 "OK") received
  let (connection, received) := conduct.leave (.closeConnection 200 "OK") received
  match connection with
  | .error cause => (.error (.close cause), received)
  | .ok () => (channel.mapError .close, received)

end Conduct

def connector (peer : Peer) (a : Access) (t : Topology) : Connector (List Frame) Session :=
  match peer with
  | .unreachable reason => {
      openSession := fun received => (.error (.connect a.target (.io reason)), received)
      publish := Conduct.accepting.publish
      close := Conduct.accepting.close }
  | .answering conduct => {
      openSession := conduct.openSession a t
      publish := conduct.publish
      close := conduct.close }

end TopicGateway.Amqp
