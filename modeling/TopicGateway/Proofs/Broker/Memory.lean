import TopicGateway.Broker.Memory

/-! What each operation of a broker in memory can do, the failing ways included. Everything that is
said of runs rests on these case distinctions and never opens the operations again. -/
namespace TopicGateway.Broker

namespace Connector

variable {σ ρ φ : Type} {c : Connector σ ρ φ}

theorem publishFresh_of_refused {fault : φ} {broker after : σ}
    (refused : c.openSession broker = (.error fault, after)) (m : Outgoing) :
    c.publishFresh m broker = (.error fault, after) := by
  simp only [publishFresh, refused]

/-- Once a session is open, its publishing decides, however the session ends. -/
theorem publishFresh_of_opened {session : ρ} {m : Outgoing} {answer ending : Except φ Unit}
    {broker opened sent closed : σ} (opens : c.openSession broker = (.ok session, opened))
    (sends : c.publish session m opened = (answer, sent))
    (closes : c.close session sent = (ending, closed)) :
    c.publishFresh m broker = (.ok answer.isOk, closed) := by
  cases answer with
  | ok u => simp only [publishFresh, opens, tryPublish, sends, closes, Except.isOk, Except.toBool]
  | error fault =>
    simp only [publishFresh, opens, tryPublish, sends, closes, Except.isOk, Except.toBool]

end Connector

namespace Memory

def Conflicts (broker : Memory) (topology : Topology) : Prop :=
  ∃ existing, broker.declared = some existing ∧ existing ≠ topology

/-- A session of this topology cannot be opened. -/
def Refuses (broker : Memory) (topology : Topology) : Prop :=
  broker.failOpen = true ∨ broker.Conflicts topology

/-- What is said to a session that would declare another topology. -/
def conflictReason (existing : Topology) : String :=
  "exchange " ++ existing.exchange.name ++ " already declared with different parameters"

def visited (broker : Memory) (topology : Topology) : Memory :=
  { broker.accept topology with closed := broker.closed + 1 }

theorem openSession_cases (topology : Topology) (broker : Memory) :
    (broker.failOpen = true ∧ openSession topology broker =
      (.error (.unavailable "connection refused"), broker)) ∨
    (broker.failOpen = false ∧ ∃ existing, broker.declared = some existing ∧ existing ≠ topology ∧
      openSession topology broker = (.error (.topologyConflict (conflictReason existing)), broker)) ∨
    (¬broker.Refuses topology ∧ openSession topology broker =
      (.ok topology, broker.accept topology)) := by
  cases switch : broker.failOpen with
  | true => exact .inl ⟨rfl, by simp [openSession, switch]⟩
  | false =>
    cases declared : broker.declared with
    | none =>
      exact .inr (.inr ⟨by simp [Refuses, Conflicts, switch, declared],
        by simp [openSession, switch, declared]⟩)
    | some existing =>
      by_cases same : existing = topology
      · subst same
        exact .inr (.inr ⟨by simp [Refuses, Conflicts, switch, declared],
          by simp [openSession, switch, declared]⟩)
      · exact .inr (.inl ⟨rfl, existing, rfl, same,
          by simp [openSession, switch, declared, same, conflictReason]⟩)

theorem openSession_conflict_iff (topology : Topology) (broker : Memory) :
    (∃ reason, (openSession topology broker).1 = .error (.topologyConflict reason)) ↔
      broker.failOpen = false ∧ broker.Conflicts topology := by
  rcases openSession_cases topology broker with ⟨switch, eq⟩ |
    ⟨switch, existing, declared, other, eq⟩ | ⟨accepts, eq⟩
  · simp [eq, switch]
  · rw [eq]
    exact ⟨fun _ => ⟨switch, existing, declared, other⟩, fun _ => ⟨_, rfl⟩⟩
  · rw [eq]
    constructor
    · rintro ⟨_, impossible⟩
      cases impossible
    · exact fun ⟨_, conflicts⟩ => absurd (Or.inr conflicts) accepts

/-- The topology that an accepted session declares is the declared one, if there is one. -/
theorem declared_eq_of_accepts {topology existing : Topology} {broker : Memory}
    (accepts : ¬broker.Refuses topology) (declared : broker.declared = some existing) :
    existing = topology := by
  apply Classical.byContradiction
  intro other
  exact accepts (.inr ⟨existing, declared, other⟩)

theorem publish_cases (session : Topology) (m : Outgoing) (broker : Memory) :
    (broker.failPublish = true ∧ publish session m broker =
      (.error (.unavailable "channel closed"), broker)) ∨
    (broker.failPublish = false ∧ publish session m broker =
      (.ok (), { broker with published := broker.published ++ [record session m] })) := by
  cases switch : broker.failPublish with
  | true => exact .inl ⟨rfl, by simp [publish, switch]⟩
  | false => exact .inr ⟨rfl, by simp [publish, switch]⟩

theorem tryPublish_cases (topology session : Topology) (m : Outgoing) (broker : Memory) :
    (broker.failPublish = true ∧
      (connector topology).tryPublish session m broker = (false, broker)) ∨
    (broker.failPublish = false ∧ (connector topology).tryPublish session m broker =
      (true, { broker with published := broker.published ++ [record session m] })) := by
  rcases publish_cases session m broker with ⟨switch, eq⟩ | ⟨switch, eq⟩
  · exact .inl ⟨switch, by simp [Connector.tryPublish, connector, eq]⟩
  · exact .inr ⟨switch, by simp [Connector.tryPublish, connector, eq]⟩

/-- The broker after a message was published on a session of its own. -/
def delivered (broker : Memory) (topology : Topology) (m : Outgoing) : Memory :=
  { broker.visited topology with published := broker.published ++ [record topology m] }

/-- The three ways of publishing on a session of its own: no session, a session on which the
publishing fails, and one on which it succeeds. -/
theorem publishFresh_cases (topology : Topology) (m : Outgoing) (broker : Memory) :
    (broker.Refuses topology ∧ ∃ fault,
      (connector topology).publishFresh m broker = (.error fault, broker)) ∨
    (¬broker.Refuses topology ∧ broker.failPublish = true ∧
      (connector topology).publishFresh m broker = (.ok false, broker.visited topology)) ∨
    (¬broker.Refuses topology ∧ broker.failPublish = false ∧
      (connector topology).publishFresh m broker = (.ok true, broker.delivered topology m)) := by
  rcases openSession_cases topology broker with ⟨switch, eq⟩ |
    ⟨_, existing, declared, other, eq⟩ | ⟨accepts, eq⟩
  · exact .inl ⟨.inl switch, _, Connector.publishFresh_of_refused eq m⟩
  · exact .inl ⟨.inr ⟨existing, declared, other⟩, _, Connector.publishFresh_of_refused eq m⟩
  · have opened : (connector topology).openSession broker = (.ok topology, broker.accept topology) :=
      eq
    rcases publish_cases topology m (broker.accept topology) with ⟨switch, sent⟩ | ⟨switch, sent⟩
    · exact .inr (.inl ⟨accepts, switch, Connector.publishFresh_of_opened opened sent rfl⟩)
    · exact .inr (.inr ⟨accepts, switch, Connector.publishFresh_of_opened opened sent rfl⟩)

theorem delivered_of_publishFresh {topology : Topology} {m : Outgoing} {broker after : Memory}
    (went : (connector topology).publishFresh m broker = (.ok true, after)) :
    after = broker.delivered topology m := by
  rcases publishFresh_cases topology m broker with ⟨_, fault, eq⟩ | ⟨_, _, eq⟩ | ⟨_, _, eq⟩
  · cases went.symm.trans eq
  · cases went.symm.trans eq
  · cases went.symm.trans eq
    rfl

/-- What the broker has recorded of a message that was published with this topology. -/
structure IsRecord (topology : Topology) (m : Outgoing) (entry : Published) : Prop where
  routingKey : entry.routingKey = m.routingKey
  envelope : entry.envelope = m.envelope
  body : entry.body = m.envelope.bytes
  properties : entry.properties = {
    deliveryMode := 2
    contentType := "application/json"
    messageId := m.envelope.messageId.text
    correlationId := m.envelope.correlationId
    timestamp := m.sentAt.toNat }
  routedTo : entry.routedTo = topology.matchingQueues m.routingKey

theorem isRecord_record (topology : Topology) (m : Outgoing) :
    IsRecord topology m (record topology m) :=
  ⟨rfl, rfl, rfl, rfl, rfl⟩

/-- A message that is sent stands behind those that were published before, and nothing else does. -/
structure Records (topology : Topology) (m : Outgoing) (sent : Prop) (before after : Memory) :
    Prop where
  added : sent → ∃ entry, after.published = before.published ++ [entry] ∧ IsRecord topology m entry
  lost : ¬sent → after.published = before.published

theorem records_publishFresh (topology : Topology) (m : Outgoing) (broker : Memory) :
    Records topology m (((connector topology).publishFresh m broker).1 = .ok true) broker
      ((connector topology).publishFresh m broker).2 := by
  rcases publishFresh_cases topology m broker with ⟨_, fault, eq⟩ | ⟨_, _, eq⟩ | ⟨_, _, eq⟩ <;> rw [eq]
  · exact ⟨nofun, fun _ => rfl⟩
  · exact ⟨nofun, fun _ => rfl⟩
  · exact ⟨fun _ => ⟨_, rfl, isRecord_record topology m⟩, fun lost => absurd rfl lost⟩

theorem Records.congr {topology : Topology} {m : Outgoing} {sent told : Prop}
    {before after : Memory} (same : sent ↔ told) (records : Records topology m sent before after) :
    Records topology m told before after :=
  ⟨fun yes => records.added (same.2 yes), fun no => records.lost (mt same.1 no)⟩

/-- A message under this key, which it also has in its correlation id and its payload. -/
def under (key : String) : Outgoing where
  routingKey := key
  envelope := ⟨.zero, "custom", Message.Wire.epoch, key, .custom (Json.string key).value⟩
  sentAt := 0

/-- A message without content, under a key that the standard topology routes. -/
def emptyMessage : Outgoing where
  routingKey := "data.request"
  envelope := ⟨.zero, "custom", Message.Wire.epoch, "c", .custom .null⟩
  sentAt := 0

end Memory

end TopicGateway.Broker
