import TopicGateway.Broker.Topic
import TopicGateway.Json.Basic

/-! Exchanges, queues and bindings. A topology is one exchange with the queues that are bound to it.
A message goes to every queue with a binding whose pattern matches its routing key; where there is
none it is dropped. -/

namespace TopicGateway.Broker

structure Exchange where
  name : String
  kind : String
  durable : Bool
  deriving DecidableEq

structure Queue where
  name : String
  durable : Bool
  deriving DecidableEq

structure Binding where
  queue : String
  pattern : String
  deriving DecidableEq

structure Topology where
  exchange : Exchange
  queues : List Queue
  bindings : List Binding
  deriving DecidableEq

namespace Topology

/-- One durable topic exchange and three durable queues with one binding each. -/
def standard : Topology where
  exchange := ⟨"backtest_exchange", "topic", true⟩
  queues := [⟨"backtest_queue", true⟩, ⟨"strategy_queue", true⟩, ⟨"data_queue", true⟩]
  bindings := [⟨"backtest_queue", "backtest.*"⟩, ⟨"strategy_queue", "strategy.*"⟩,
    ⟨"data_queue", "data.*"⟩]

/-- The queues that receive a message, each once, in the order of their first matching binding. -/
def matchingQueues (t : Topology) (key : String) : List String :=
  ((t.bindings.filter fun b => topicMatches b.pattern key).map Binding.queue).eraseDups

def isRoutable (t : Topology) (key : String) : Bool :=
  !(t.matchingQueues key).isEmpty

def json (t : Topology) : Json :=
  .object [
    ("exchange", .object [
      ("name", .string t.exchange.name),
      ("kind", .string t.exchange.kind),
      ("durable", .bool t.exchange.durable)]),
    ("queues", .array (t.queues.map fun q =>
      .object [("name", .string q.name), ("durable", .bool q.durable)])),
    ("bindings", .array (t.bindings.map fun b =>
      .object [("queue", .string b.queue), ("pattern", .string b.pattern)]))]

def lines (t : Topology) : List String :=
  let durable (b : Bool) := " durable=" ++ (if b then "true" else "false")
  ("exchange=" ++ t.exchange.name ++ " kind=" ++ t.exchange.kind ++ durable t.exchange.durable) ::
    (t.queues.map fun q => "queue=" ++ q.name ++ durable q.durable) ++
    (t.bindings.map fun b => "binding=" ++ b.pattern ++ " -> " ++ b.queue)

end Topology

end TopicGateway.Broker
