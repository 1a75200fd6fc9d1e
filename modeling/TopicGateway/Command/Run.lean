import TopicGateway.Broker.Session
import TopicGateway.Broker.Topology
import TopicGateway.Command.Help
import TopicGateway.Config.Resolve
import TopicGateway.Message.Template

/-! Running a command. A command resolves the configuration and prints it, prints the topology and
may declare it, or publishes one message. A failure is told as what was attempted with its causes.
-/

namespace TopicGateway.Command

open Broker (Access Connector Topology)
open Config (Environment Files Settings)
open Message (Envelope)

structure Failure where
  attempt : String
  causes : List String
  deriving DecidableEq

namespace Failure

def indented (indent : String) (text : String) : String :=
  String.ofList (text.toList.flatMap fun c => if c = '\n' then '\n' :: indent.toList else [c])

def numbered : Nat → List String → List String
  | _, [] => []
  | n, cause :: causes =>
    let number := toString n
    ("".pushn ' ' (5 - number.length) ++ number ++ ": " ++ indented "       " cause) ::
      numbered (n + 1) causes

def causeLines : List String → List String
  | [] => []
  | [cause] => ["", "Caused by:", "    " ++ indented "    " cause]
  | causes => "" :: "Caused by:" :: numbered 0 causes

def lines (f : Failure) : List String :=
  ("Error: " ++ f.attempt) :: causeLines f.causes

end Failure

structure Report where
  printed : List String
  failure : Option Failure
  deriving DecidableEq

def settingsLines (s : Settings) : List String := [
  "bind_addr=" ++ s.bind.text,
  "broker_host=" ++ s.broker.host,
  "broker_port=" ++ toString s.broker.port.toNat,
  "broker_vhost=" ++ s.broker.vhost,
  "broker_user=" ++ s.broker.username,
  "broker_password=" ++ Access.redacted,
  "heartbeat_secs=" ++ toString s.broker.heartbeat.toNat,
  "blocked_connection_timeout_secs=" ++ toString s.broker.blockedTimeout.toNat,
  "connection_name=" ++ s.broker.connectionName,
  "unroutable_policy=" ++ s.policy.name,
  "template_defaults=" ++ s.defaults.json.text]

/-- The envelope of a publication, unless it is refused before a broker is asked. -/
def Publication.envelope (p : Publication) (stamp : Message.Stamp) : Except Failure Envelope :=
  if Text.blank p.routingKey then .error ⟨"--routing-key must not be empty", []⟩
  else
    let input := Text.Utf8.encode p.payload
    match Json.read input with
    | .error e => .error ⟨"--payload is not valid JSON", [e.message input]⟩
    | .ok payload =>
      .ok (Message.Template.custom stamp p.messageType payload.value p.correlationId)

section

variable {σ ρ : Type} (connect : Access → Topology → Connector σ ρ)

def declare (a : Access) (broker : σ) : Report × σ :=
  let t := Topology.standard
  let c := connect a t
  match c.openSession broker with
  | (.error fault, broker) =>
    (⟨t.lines, some ⟨"declare topology on " ++ a.target, fault.causes⟩⟩, broker)
  | (.ok session, broker) =>
    match c.close session broker with
    | (.error fault, broker) => (⟨t.lines, some ⟨"close broker session", fault.causes⟩⟩, broker)
    | (.ok (), broker) => (⟨t.lines ++ ["declared=true broker=" ++ a.target], none⟩, broker)

def publish (a : Access) (p : Publication) (stamp : Message.Stamp) (sentAt : Int) (broker : σ) :
    Report × σ :=
  match p.envelope stamp with
  | .error failure => (⟨[], some failure⟩, broker)
  | .ok e =>
    match (connect a .standard).publishFresh ⟨p.routingKey, e, sentAt⟩ broker with
    | (.error fault, broker) =>
      (⟨[], some ⟨"connect to broker " ++ a.target, fault.causes⟩⟩, broker)
    | (.ok false, broker) =>
      (⟨[], some ⟨"publish failed: routing_key=" ++ p.routingKey, []⟩⟩, broker)
    | (.ok true, broker) =>
      (⟨["message_id=" ++ e.messageId.text, "correlation_id=" ++ e.correlationId,
        "routing_key=" ++ p.routingKey], none⟩, broker)

def serve (request : Request) (s : Settings) (stamp : Message.Stamp) (sentAt : Int) (broker : σ) :
    Report × σ :=
  match request with
  | .config => (⟨settingsLines s, none⟩, broker)
  | .topology false => (⟨Topology.standard.lines, none⟩, broker)
  | .topology true => declare connect s.broker broker
  | .publish p => publish connect s.broker p stamp sentAt broker

inductive Outcome where
  | misuse
  | help (topic : Topic)
  | report (r : Report)
  deriving DecidableEq

/-- Runs the program. The configuration is resolved before anything else is done. -/
def run (arguments : List String) (env : Environment) (files : Files) (stamp : Message.Stamp)
    (sentAt : Int) (broker : σ) : Outcome × σ :=
  match Arguments.parse arguments with
  | .error .misuse => (.misuse, broker)
  | .error (.help topic) => (.help topic, broker)
  | .ok request =>
    match Config.resolve env files with
    | .error fault => (.report ⟨[], some ⟨"resolve gateway config", fault.causes⟩⟩, broker)
    | .ok settings =>
      let (report, broker) := serve connect request settings stamp sentAt broker
      (.report report, broker)

end

namespace Outcome

/-- 2 for misuse, 1 for a failure. -/
def exitCode : Outcome → Nat
  | .misuse => 2
  | .help _ => 0
  | .report r => if r.failure.isSome then 1 else 0

def unlines (lines : List String) : String :=
  String.join (lines.map (· ++ "\n"))

def stdout : Outcome → String
  | .misuse => ""
  | .help topic => unlines topic.helpLines
  | .report r => unlines r.printed

def stderr : Outcome → String
  | .misuse => unlines ["error: invalid arguments", "", "Usage: " ++ Topic.program.usage, "",
      "For more information, try '--help'."]
  | .help _ => ""
  | .report r =>
    match r.failure with
    | some f => unlines f.lines
    | none => ""

end Outcome

end TopicGateway.Command
