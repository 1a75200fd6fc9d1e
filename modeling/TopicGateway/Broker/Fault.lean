import TopicGateway.Time.Span

/-! Why a broker cannot be used. A fault names what failed; one of the transport below has a cause
of its own, which may have another. -/

namespace TopicGateway.Broker

structure Closure where
  code : Nat
  reason : String
  deriving DecidableEq

namespace Closure

/-- The reasons for closing that concern a channel only, by their codes. -/
def channelReasons : List (Nat × String) := [
  (311, "CONTENT-TOO-LARGE"),
  (312, "NO-ROUTE"),
  (313, "NO-CONSUMERS"),
  (403, "ACCESS-REFUSED"),
  (404, "NOT-FOUND"),
  (405, "RESOURCE-LOCKED"),
  (406, "PRECONDITION-FAILED")]

def connectionReasons : List (Nat × String) := [
  (320, "CONNECTION-FORCED"),
  (402, "INVALID-PATH"),
  (501, "FRAME-ERROR"),
  (502, "SYNTAX-ERROR"),
  (503, "COMMAND-INVALID"),
  (504, "CHANNEL-ERROR"),
  (505, "UNEXPECTED-FRAME"),
  (506, "RESOURCE-ERROR"),
  (530, "NOT-ALLOWED"),
  (540, "NOT-IMPLEMENTED"),
  (541, "INTERNAL-ERROR")]

def text? (c : Closure) : Option String :=
  match channelReasons.lookup c.code with
  | some name => some ("AMQP soft error: " ++ name ++ ": " ++ c.reason)
  | none => (connectionReasons.lookup c.code).map fun name =>
      "AMQP hard error: " ++ name ++ ": " ++ c.reason

end Closure

inductive TransportFault where
  | io (reason : String)
  | channelClosed (closure : Closure)
  | connectionClosed (closure : Closure)
  deriving DecidableEq

namespace TransportFault

/-- What failed, and why, the outermost first. A closure without a name shows as a state. -/
def causes : TransportFault → List String
  | .io reason => ["IO error: " ++ reason, reason]
  | .channelClosed closure =>
    match closure.text? with
    | some text => ["protocol error: " ++ text, text]
    | none => ["invalid channel state: Closing"]
  | .connectionClosed closure =>
    match closure.text? with
    | some text => ["protocol error: " ++ text, text]
    | none => ["invalid connection state: Closed"]

def message (f : TransportFault) : String :=
  f.causes.headD ""

end TransportFault

inductive Fault where
  | connect (target : String) (cause : TransportFault)
  | channel (cause : TransportFault)
  /-- A declaration that was refused; `item` names what was to be declared. -/
  | topology (item : String) (cause : TransportFault)
  | topologyConflict (reason : String)
  /-- Nothing gives this one: every envelope can be written. -/
  | serialize (reason : String)
  | publish (cause : TransportFault)
  | blocked (limit : Time.Span)
  | close (cause : TransportFault)
  | unavailable (reason : String)
  deriving DecidableEq

namespace Fault

def message : Fault → String
  | .connect target cause => "connect to broker at " ++ target ++ " failed: " ++ cause.message
  | .channel cause => "open channel failed: " ++ cause.message
  | .topology item cause => "declare " ++ item ++ " failed: " ++ cause.message
  | .topologyConflict reason => "topology conflict: " ++ reason
  | .serialize reason => "serialize envelope failed: " ++ reason
  | .publish cause => "publish failed: " ++ cause.message
  | .blocked limit => "publish blocked for more than " ++ limit.text
  | .close cause => "close failed: " ++ cause.message
  | .unavailable reason => "broker unavailable: " ++ reason

/-- What failed, and why, the outermost first. -/
def causes (f : Fault) : List String :=
  f.message :: match f with
    | .connect _ cause | .channel cause | .topology _ cause | .publish cause | .close cause =>
      cause.causes
    | .serialize reason => [reason]
    | .topologyConflict _ | .blocked _ | .unavailable _ => []

end Fault

end TopicGateway.Broker
