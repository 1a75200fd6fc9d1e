import TopicGateway.Proofs.Broker.Memory

/-! A session that several messages are published on, one after another, on any connector. On a broker
in memory that lets the session in, every message is recorded in the order of the calls. -/
namespace TopicGateway.Broker

namespace Connector

variable {σ ρ : Type} (c : Connector σ ρ)

/-- Publishes messages one after another on an open session, with what each call answered. -/
def publishAll (session : ρ) : List Outgoing → σ → List (Except Fault Unit) × σ
  | [], broker => ([], broker)
  | m :: messages, broker =>
    let (answer, broker) := c.publish session m broker
    let (answers, broker) := publishAll session messages broker
    (answer :: answers, broker)

structure Answers where
  published : List (Except Fault Unit)
  closed : Except Fault Unit

def runSession (messages : List Outgoing) (broker : σ) : Except Fault Answers × σ :=
  match c.openSession broker with
  | (.error fault, broker) => (.error fault, broker)
  | (.ok session, broker) =>
    let (published, broker) := c.publishAll session messages broker
    let (closed, broker) := c.close session broker
    (.ok ⟨published, closed⟩, broker)

def Answers.allOk (messages : List Outgoing) : Answers :=
  ⟨messages.map fun _ => .ok (), .ok ()⟩

end Connector

namespace Memory

theorem publishAll_eq (topology session : Topology) (messages : List Outgoing) (broker : Memory)
    (working : broker.failPublish = false) :
    (connector topology).publishAll session messages broker =
      (messages.map fun _ => .ok (),
        { broker with published := broker.published ++ messages.map (record session) }) := by
  induction messages generalizing broker with
  | nil => simp [Connector.publishAll]
  | cons m messages ih =>
    have sent : (connector topology).publish session m broker =
        (.ok (), { broker with published := broker.published ++ [record session m] }) := by
      rcases publish_cases session m broker with ⟨failing, _⟩ | ⟨_, eq⟩
      · rw [working] at failing
        cases failing
      · exact eq
    have others := ih { broker with published := broker.published ++ [record session m] } working
    simp only [Connector.publishAll, sent, others]
    simp

/-- A session that is let in records its messages behind those that are there. -/
theorem runSession_eq {topology : Topology} (messages : List Outgoing) {broker : Memory}
    (accepts : ¬broker.Refuses topology) (working : broker.failPublish = false) :
    (connector topology).runSession messages broker = (.ok (.allOk messages),
      { broker.visited topology with
        published := broker.published ++ messages.map (record topology) }) := by
  rcases openSession_cases topology broker with ⟨switch, _⟩ | ⟨_, existing, declared, other, _⟩ |
    ⟨_, eq⟩
  · exact absurd (.inl switch) accepts
  · exact absurd (.inr ⟨existing, declared, other⟩) accepts
  · have opened : (connector topology).openSession broker = (.ok topology, broker.accept topology) :=
      eq
    have sent := publishAll_eq topology topology messages (broker.accept topology) working
    simp only [Connector.runSession, opened, sent]
    rfl

end Memory

end TopicGateway.Broker
