import TopicGateway.Proofs.Command.Publication
import TopicGateway.Proofs.Gateway.Decoded

/-! Which payloads that are published from the command line are read back. The text of a payload is read
alone, with all the levels that a reader allows, and is published one level further in: at the last
level the program sends out what it would not read itself. Up to there the payload comes back if its
doubles do. -/
namespace TopicGateway.Command

open Broker (Access Connector Memory Outgoing Published Topology)
open Config (Environment Files)
open Message (Envelope Payload Stamp Wire)

section Program

variable {arguments : List String} {env : Environment} {files : Files} {cfg : Config.Settings}
variable {p : Publication} {payload : Json}

def ReadsBack (m : Outgoing) (payload : Json) : Prop :=
  ∃ decoded, Envelope.read m.envelope.bytes = .ok decoded ∧
    decoded.payload.json.value = payload.value

theorem read_of_shallow (stamp : Stamp) (type correlation : Option String)
    (shallow : payload.value.json.depth ≤ Wire.payloadDepth) :
    ∃ decoded, Envelope.read (Message.Template.custom stamp type payload.value correlation).bytes =
      .ok decoded ∧ decoded.payload.json.value = payload.value.reread :=
  ⟨_, Envelope.read_bytes shallow, Payload.value_ofWire _ _⟩

theorem refused_of_deep (stamp : Stamp) (type correlation : Option String)
    (deep : Wire.payloadDepth < payload.value.json.depth) :
    ∃ rest, Envelope.read (Message.Template.custom stamp type payload.value correlation).bytes =
      .error ⟨.tooDeep, rest⟩ :=
  Envelope.read_bytes_tooDeep deep

/-- What the program hands the connector, for a payload that it accepts and a key that shows something,
is read back with the doubles that are read of the payload's if that has at most 126 levels, and so
with the value of the payload if every double is restored. With one level more, which is the most that
is accepted, it is sent out just so and then refused by the reader. -/
theorem published_payload_reads_back_iff (asked : Arguments.parse arguments = .ok (.publish p))
    (resolved : Config.resolve env files = .ok cfg) (seen : Text.blank p.routingKey = false)
    (accepted : Json.read (Text.Utf8.encode p.payload) = .ok payload) (stamp : Stamp)
    (sentAt : Int) :
    ∃ m : Outgoing, m.routingKey = p.routingKey ∧
      (∀ {σ ρ : Type} (connect : Access → Topology → Connector σ ρ) (broker : σ),
        Printed m ((connect cfg.broker .standard).publishFresh m broker)
          (run connect arguments env files stamp sentAt broker)) ∧
      (payload.value.json.depth ≤ 126 → ∃ decoded,
        Envelope.read m.envelope.bytes = .ok decoded ∧
        decoded.payload.json.value = payload.value.reread) ∧
      (ReadsBack m payload ↔ payload.value.json.depth ≤ 126 ∧ payload.value.json.Restored) ∧
      ((∃ rest, Envelope.read m.envelope.bytes = .error ⟨.tooDeep, rest⟩) ↔
        payload.value.json.depth = 127) := by
  have read : payload.depth ≤ Json.deepest := Json.depth_of_read accepted
  have most : payload.value.json.depth ≤ 127 := Nat.le_trans (Json.depth_canonical_le payload) read
  refine ⟨⟨p.routingKey, Message.Template.custom stamp p.messageType payload.value p.correlationId,
    sentAt⟩, rfl, fun connect broker =>
      printed_of_envelope asked resolved (envelope_of_read seen accepted) sentAt broker, ?_⟩
  rcases Nat.lt_or_ge Wire.payloadDepth payload.value.json.depth with deep | shallow
  · -- At the last level nothing is read back, so neither is this payload.
    have last : payload.value.json.depth = 127 := Nat.le_antisymm most deep
    obtain ⟨rest, refused⟩ := refused_of_deep stamp p.messageType p.correlationId deep
    refine ⟨fun shallow => absurd deep (Nat.not_lt.2 shallow), ⟨?_, ?_⟩, fun _ => last,
      fun _ => ⟨rest, refused⟩⟩
    · rintro ⟨decoded, restored, _⟩
      exact absurd (refused.symm.trans restored) nofun
    · exact fun ⟨shallow, _⟩ => absurd deep (Nat.not_lt.2 shallow)
  · obtain ⟨decoded, back, value⟩ := read_of_shallow stamp p.messageType p.correlationId shallow
    refine ⟨fun _ => ⟨decoded, back, value⟩, ⟨?_, ?_⟩, ?_, ?_⟩
    · rintro ⟨other, back', same⟩
      cases back.symm.trans back'
      exact ⟨shallow, payload.value.reread_eq_self_iff.1 (value.symm.trans same)⟩
    · rintro ⟨_, restored⟩
      exact ⟨decoded, back, value.trans (payload.value.reread_eq_self_iff.2 restored)⟩
    · rintro ⟨rest, refused⟩
      exact absurd (back.symm.trans refused) nofun
    · intro last
      rw [last] at shallow
      exact absurd shallow (by decide)

end Program

def lists : Nat → Json
  | 0 => .array []
  | n + 1 => .array [lists n]

theorem depth_canonical_lists (n : Nat) : (lists n).canonical.depth = n + 1 := by
  induction n with
  | zero => rfl
  | succ n ih =>
    rw [lists, Json.canonical, Json.canonicalItems, Json.canonicalItems, Json.depth, Json.depthItems,
      Json.depthItems, ih]
    rfl

/-- A publication whose payload is written with so many brackets, of which half are opening ones. -/
def nested (levels : Nat) : Publication where
  routingKey := "orders.new"
  payload := String.ofList (List.replicate levels '[' ++ List.replicate levels ']')
  messageType := none
  correlationId := some "c-1"

theorem restored_lists (n : Nat) : (lists n).value.json.Restored := by
  have none : (lists n).canonical.doubles = [] := by
    induction n with
    | zero => rfl
    | succ n ih =>
      rw [lists, Json.canonical, Json.canonicalItems, Json.canonicalItems, Json.doubles,
        Json.doublesItems, Json.doublesItems, ih]
      rfl
  intro r inside
  rw [Json.value, none] at inside
  cases inside

def rough : Publication :=
  { nested 1 with payload := "9.205966767552478" }

/-- The payload with 126 levels is read back, the one with 127 is not, and neither is a number that is
read as a neighbour of its own. -/
theorem nested_payloads_read_back :
    let files : Files := fun _ => .error .missing
    Config.resolve (fun _ => none) files = .ok .standard ∧
    Json.read (Text.Utf8.encode (nested 126).payload) = .ok (lists 125) ∧
    Json.read (Text.Utf8.encode (nested 127).payload) = .ok (lists 126) ∧
    Json.read (Text.Utf8.encode rough.payload) = .ok (Json.nearest 9205966767552479 (-15)) ∧
    (∃ m : Outgoing, m.routingKey = "orders.new" ∧ ReadsBack m (lists 125)) ∧
    (∃ m : Outgoing, m.routingKey = "orders.new" ∧
      ∃ rest, Envelope.read m.envelope.bytes = .error ⟨.tooDeep, rest⟩) ∧
    ∃ m : Outgoing, m.routingKey = "orders.new" ∧
      ¬ReadsBack m (Json.nearest 9205966767552479 (-15)) := by
  intro files
  have resolved : Config.resolve (fun _ => none) files = .ok .standard := by decide +kernel
  have shallow : Json.read (Text.Utf8.encode (nested 126).payload) = .ok (lists 125) := by
    decide +kernel
  have deep : Json.read (Text.Utf8.encode (nested 127).payload) = .ok (lists 126) := by
    decide +kernel
  have number : Json.read (Text.Utf8.encode rough.payload) =
      .ok (Json.nearest 9205966767552479 (-15)) := by decide +kernel
  have stamp : Stamp := ⟨.zero, .zero, Wire.epoch⟩
  obtain ⟨sent, key, _, _, restored, _⟩ := published_payload_reads_back_iff
    (nested 126).parse_arguments resolved (by decide) shallow stamp 0
  obtain ⟨lost, key', _, _, _, refused⟩ := published_payload_reads_back_iff
    (nested 127).parse_arguments resolved (by decide) deep stamp 0
  obtain ⟨other, key'', _, _, back, _⟩ := published_payload_reads_back_iff
    rough.parse_arguments resolved (by decide) number stamp 0
  refine ⟨resolved, shallow, deep, number, ⟨sent, key, restored.2 ⟨?_, restored_lists 125⟩⟩,
    ⟨lost, key', refused.2 (depth_canonical_lists 126)⟩, other, key'', fun readsBack => ?_⟩
  · exact Nat.le_of_eq (depth_canonical_lists 125)
  · exact absurd (back.1 readsBack).2 (by decide +kernel)

/-- The program accepts the payload with 127 levels, publishes it and reports success, and what the
broker got is refused by the reader of envelopes. -/
theorem deepest_payload_published_unreadable :
    let files : Files := fun _ => .error .missing
    let connect := fun (_ : Access) => Broker.Memory.connector
    Json.read (Text.Utf8.encode (nested 127).payload) = .ok (lists 126) ∧
    ∀ stamp : Stamp,
      let ended := run connect (nested 127).arguments (fun _ => none) files stamp 0 .fresh
      ended.1.exitCode = 0 ∧ ∃ published : Published, ended.2.published = [published] ∧
        ∃ rest, Envelope.read published.body = .error ⟨.tooDeep, rest⟩ := by
  intro files connect
  have resolved : Config.resolve (fun _ => none) files = .ok .standard := by decide +kernel
  have accepted : Json.read (Text.Utf8.encode (nested 127).payload) = .ok (lists 126) := by
    decide +kernel
  have deep : Wire.payloadDepth < (lists 126).value.json.depth :=
    Nat.le_of_eq (depth_canonical_lists 126).symm
  refine ⟨accepted, fun stamp => ?_⟩
  obtain ⟨rest, refused⟩ := refused_of_deep stamp (nested 127).messageType
    (nested 127).correlationId deep
  have made : (nested 127).envelope stamp = .ok (Message.Template.custom stamp (nested 127).messageType
      (lists 126).value (nested 127).correlationId) := envelope_of_read (by decide) accepted
  rw [run_publish (nested 127).parse_arguments resolved, publish, made]
  exact ⟨rfl, Broker.Memory.record .standard ⟨"orders.new", _, 0⟩, rfl, rest, refused⟩

end TopicGateway.Command
