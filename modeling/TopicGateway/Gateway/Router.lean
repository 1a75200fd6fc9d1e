import TopicGateway.Broker.Session
import TopicGateway.Config.Resolve
import TopicGateway.Gateway.Route

/-! The gateway. `handle` answers one request over a broker. A message that is ready goes out on a
session of its own, unless its key was chosen by the caller, matches no queue, and such keys are
refused. -/

namespace TopicGateway.Gateway

open Broker (Connector Outgoing Topology)

structure Settings where
  topology : Topology
  defaults : Message.Defaults
  policy : Config.UnroutablePolicy
  service : String := "bgw-gateway"
  version : String := "0.0.1"

def Settings.ofConfig (config : Config.Settings) : Settings where
  topology := .standard
  defaults := config.defaults
  policy := config.policy

/-- Only the keys of custom messages are chosen by the caller. -/
def Route.callerKey : Route → Bool
  | .custom => true
  | _ => false

section

variable {σ ρ φ : Type} (s : Settings) (c : Connector σ ρ φ) (draws : Draws)

def refusesKey (route : Route) (key : String) : Bool :=
  route.callerKey && s.policy = .reject && !s.topology.isRoutable key

def outgoing (p : Prepared) : Outgoing where
  routingKey := p.routingKey
  envelope := p.envelope
  sentAt := draws.sentAt

def dispatch (route : Route) (p : Prepared) (broker : σ) : Except Refusal Unit × σ :=
  if refusesKey s route p.routingKey then (.error (.unroutableKey p.routingKey), broker)
  else
    match c.publishFresh (outgoing draws p) broker with
    | (.ok true, broker) => (.ok (), broker)
    | (.ok false, broker) | (.error _, broker) => (.error (.publishFailed route.what), broker)

def publishAnswer (route : Route) (r : Http.Request) (broker : σ) : Http.Answer × σ :=
  match route.prepare s.defaults draws r with
  | .error refusal => (refusal.answer, broker)
  | .ok p =>
    match dispatch s c draws route p broker with
    | (.ok (), broker) => (jsonAnswer 200 p.answer, broker)
    | (.error refusal, broker) => (refusal.answer, broker)

/-- The gateway is there, and since when it says so. -/
def healthAnswer : Http.Answer :=
  jsonAnswer 200 (.object [
    ("status", .string "ok"),
    ("timestamp", .string draws.now.text),
    ("service", .string s.service),
    ("version", .string s.version)])

def bareAnswer (status : Nat) (allow : Option String) : Http.Answer where
  status := status
  contentType := none
  allow := allow
  body := []

def handle (r : Http.Request) (broker : σ) : Http.Answer × σ :=
  if r.route = "/health" then
    if r.method = "GET" then (healthAnswer s draws, broker)
    else if r.method = "HEAD" then ({ healthAnswer s draws with body := [] }, broker)
    else (bareAnswer 405 (some "GET,HEAD"), broker)
  else
    match Route.ofPath? r.route with
    | some route =>
      if r.method = "POST" then publishAnswer s c draws route r broker
      else (bareAnswer 405 (some "POST"), broker)
    | none => (bareAnswer 404 none, broker)

end

end TopicGateway.Gateway
