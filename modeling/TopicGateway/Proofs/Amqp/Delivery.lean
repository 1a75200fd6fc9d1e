import TopicGateway.Amqp.Frame
import TopicGateway.Broker.Memory

/-! How a peer puts messages together from the frames that it receives. What stands between the
frames of one message, a header whose flags are not those of its properties, a body frame that is
empty or too long, and a body beyond its announced size are refused. The frames that are written for
a message come out as that message. -/
namespace TopicGateway.Amqp

open Broker (Memory Outgoing Published Topology)

structure Delivery where
  exchange : String
  routingKey : String
  options : PublishOptions
  bodySize : Nat
  properties : BasicProperties
  body : List UInt8
  deriving DecidableEq

def Delivery.ofOutgoing (exchange : String) (m : Outgoing) : Delivery where
  exchange := exchange
  routingKey := m.routingKey
  options := {}
  bodySize := m.envelope.bytes.length
  properties := .ofProperties m.properties
  body := m.envelope.bytes

/-- A peer has of a message what a broker in memory recorded of it, and no property beside. -/
structure Delivery.Carries (exchange : String) (p : Published) (d : Delivery) : Prop where
  exchange_eq : d.exchange = exchange
  routingKey : d.routingKey = p.routingKey
  optional : d.options.mandatory = false ∧ d.options.immediate = false
  bodySize : d.bodySize = p.body.length
  body : d.body = p.body
  deliveryMode : d.properties.deliveryMode = some p.properties.deliveryMode
  contentType : d.properties.contentType = some p.properties.contentType
  messageId : d.properties.messageId = some p.properties.messageId
  correlationId : d.properties.correlationId = some p.properties.correlationId
  timestamp : d.properties.timestamp = some p.properties.timestamp
  others : d.properties.contentEncoding = none ∧ d.properties.headers = none ∧
    d.properties.priority = none ∧ d.properties.replyTo = none ∧ d.properties.expiration = none ∧
    d.properties.type = none ∧ d.properties.userId = none ∧ d.properties.appId = none ∧
    d.properties.clusterId = none

theorem Delivery.carries_ofOutgoing (exchange : String) (t : Topology) (m : Outgoing) :
    Carries exchange (Memory.record t m) (.ofOutgoing exchange m) where
  exchange_eq := rfl
  routingKey := rfl
  optional := ⟨rfl, rfl⟩
  bodySize := rfl
  body := rfl
  deliveryMode := rfl
  contentType := rfl
  messageId := rfl
  correlationId := rfl
  timestamp := rfl
  others := ⟨rfl, rfl, rfl, rfl, rfl, rfl, rfl, rfl, rfl⟩

inductive Awaiting where
  | method
  | header (exchange routingKey : String) (options : PublishOptions)
  /-- The next body frame of a message that has begun. -/
  | body (begun : Delivery)
  deriving DecidableEq

structure Receiver where
  awaiting : Awaiting
  delivered : List Delivery
  deriving DecidableEq

namespace Receiver

def idle : Receiver := ⟨.method, []⟩

/-- Goes on with a message: it is complete once its body has the announced size. -/
def goOn (s : Receiver) (d : Delivery) : Receiver :=
  if d.body.length = d.bodySize then ⟨.method, s.delivered ++ [d]⟩ else ⟨.body d, s.delivered⟩

/-- One frame, unless it may not stand here. -/
def step (s : Receiver) (f : Frame) : Option Receiver :=
  match s.awaiting, f with
  | .method, .publish exchange key options => some ⟨.header exchange key options, s.delivered⟩
  | .method, .contentHeader .. | .method, .contentBody _ => none
  | .method, _ => some s
  | .header exchange key options, .contentHeader size flags properties =>
    if flags = properties.flags then some (s.goOn ⟨exchange, key, options, size, properties, []⟩)
    else none
  | .header .., _ => none
  | .body d, .contentBody bytes =>
    if bytes = [] ∨ bodyMax < bytes.length ∨ d.bodySize < (d.body ++ bytes).length then none
    else some (s.goOn { d with body := d.body ++ bytes })
  | .body _, _ => none

def receive (s : Receiver) : List Frame → Option Receiver
  | [] => some s
  | f :: frames => (s.step f).bind fun s => s.receive frames

end Receiver

/-- The messages in a sequence of frames, if every frame is in its place and no message is left
unfinished. -/
def deliveries (frames : List Frame) : Option (List Delivery) :=
  match Receiver.idle.receive frames with
  | some ⟨.method, delivered⟩ => some delivered
  | _ => none

theorem flatten_piecesWithin (size : Nat) {fuel : Nat} {bytes : List UInt8}
    (enough : bytes.length ≤ fuel) : (piecesWithin size fuel bytes).flatten = bytes := by
  induction fuel generalizing bytes with
  | zero =>
    have empty : bytes = [] := List.eq_nil_of_length_eq_zero (by omega)
    rw [empty]
    rfl
  | succ fuel ih =>
    cases bytes with
    | nil => rfl
    | cons b bytes =>
      have shorter : (bytes.drop size).length ≤ fuel := by
        simp only [List.length_drop, List.length_cons] at enough ⊢
        omega
      rw [piecesWithin, List.flatten_cons, ih shorter, List.cons_append, List.take_append_drop]

/-- No piece is empty, and none is longer than it may be. -/
theorem mem_piecesWithin {size fuel : Nat} {bytes piece : List UInt8}
    (member : piece ∈ piecesWithin size fuel bytes) : piece ≠ [] ∧ piece.length ≤ size + 1 := by
  induction fuel generalizing bytes with
  | zero => cases member
  | succ fuel ih =>
    cases bytes with
    | nil => cases member
    | cons b bytes =>
      rcases List.mem_cons.1 member with rfl | later
      · refine ⟨List.cons_ne_nil _ _, ?_⟩
        rw [List.length_cons, List.length_take]
        omega
      · exact ih later

namespace Receiver

variable {delivered : List Delivery}

theorem receive_append (s : Receiver) (first second : List Frame) :
    s.receive (first ++ second) = (s.receive first).bind fun s => s.receive second := by
  induction first generalizing s with
  | nil => rfl
  | cons f first ih =>
    rw [List.cons_append, receive, receive]
    cases s.step f with
    | none => rfl
    | some next => exact ih next

theorem step_piece {d : Delivery} {piece : List UInt8} (nonempty : piece ≠ [])
    (short : piece.length ≤ bodyMax) (inside : d.body.length + piece.length ≤ d.bodySize)
    (delivered : List Delivery) :
    step ⟨.body d, delivered⟩ (.contentBody piece) =
      some (goOn ⟨.body d, delivered⟩ { d with body := d.body ++ piece }) := by
  apply if_neg
  rw [List.length_append]
  rintro (empty | long | beyond)
  · exact nonempty empty
  · omega
  · omega

/-- The body frames of a message that has begun complete it, whatever sizes they are cut to. -/
theorem receive_pieces (s : Receiver) (d : Delivery) {pieces : List (List UInt8)}
    (fit : ∀ piece ∈ pieces, piece ≠ [] ∧ piece.length ≤ bodyMax)
    (size : d.body.length + pieces.flatten.length = d.bodySize) :
    (s.goOn d).receive (pieces.map .contentBody) =
      some ⟨.method, s.delivered ++ [{ d with body := d.body ++ pieces.flatten }]⟩ := by
  induction pieces generalizing s d with
  | nil =>
    have whole : d.body.length = d.bodySize := by simpa using size
    simp [goOn, whole, receive]
  | cons piece pieces ih =>
    obtain ⟨nonempty, short⟩ := fit piece (List.mem_cons_self ..)
    have positive : 0 < piece.length := List.length_pos_iff.2 nonempty
    rw [List.flatten_cons, List.length_append] at size
    have unfinished : d.body.length ≠ d.bodySize := by omega
    have others := ih ⟨.body d, s.delivered⟩ { d with body := d.body ++ piece }
      (fun piece later => fit piece (List.mem_cons_of_mem _ later))
      (by simp only [List.length_append]; omega)
    rw [goOn, if_neg unfinished, List.map_cons, receive, step_piece nonempty short (by omega),
      Option.bind_some, others, List.flatten_cons, List.append_assoc]

theorem step_header (s : Receiver) (exchange key : String) (options : PublishOptions) (size : Nat)
    (properties : BasicProperties) (awaiting : s.awaiting = .header exchange key options) :
    s.step (.contentHeader size properties.flags properties) =
      some (s.goOn ⟨exchange, key, options, size, properties, []⟩) := by
  simp only [step, awaiting, if_true]

theorem receive_message (exchange : String) (m : Outgoing) (delivered : List Delivery) :
    receive ⟨.method, delivered⟩ (messageFrames exchange m) =
      some ⟨.method, delivered ++ [.ofOutgoing exchange m]⟩ := by
  let s : Receiver := ⟨.header exchange m.routingKey {}, delivered⟩
  have header := step_header s exchange m.routingKey {} m.envelope.bytes.length
    (.ofProperties m.properties) rfl
  have body : (piecesWithin (bodyMax - 1) m.envelope.bytes.length m.envelope.bytes).flatten =
      m.envelope.bytes := flatten_piecesWithin _ (Nat.le_refl _)
  have fit : ∀ piece ∈ piecesWithin (bodyMax - 1) m.envelope.bytes.length m.envelope.bytes,
      piece ≠ [] ∧ piece.length ≤ bodyMax := fun piece member => mem_piecesWithin member
  have pieces := receive_pieces s { Delivery.ofOutgoing exchange m with body := [] } fit
    (by rw [body]; exact Nat.zero_add _)
  rw [body] at pieces
  have started : step ⟨.method, delivered⟩ (.publish exchange m.routingKey {}) = some s := rfl
  rw [messageFrames, receive, started, Option.bind_some, receive, header, Option.bind_some]
  exact pieces

theorem receive_messages (exchange : String) (messages : List Outgoing)
    (delivered : List Delivery) :
    receive ⟨.method, delivered⟩ (messages.flatMap (messageFrames exchange)) =
      some ⟨.method, delivered ++ messages.map (.ofOutgoing exchange)⟩ := by
  induction messages generalizing delivered with
  | nil => simp [receive]
  | cons m messages ih =>
    rw [List.flatMap_cons, receive_append, receive_message, Option.bind_some, ih]
    simp

end Receiver

/-- The frame is part of a message. -/
def Frame.ofMessage : Frame → Bool
  | .publish .. | .contentHeader .. | .contentBody _ => true
  | _ => false

namespace Receiver

theorem receive_others {frames : List Frame} (others : ∀ f ∈ frames, f.ofMessage = false)
    (delivered : List Delivery) :
    receive ⟨.method, delivered⟩ frames = some ⟨.method, delivered⟩ := by
  induction frames with
  | nil => rfl
  | cons f frames ih =>
    have first : step ⟨.method, delivered⟩ f = some ⟨.method, delivered⟩ := by
      have other := others f (List.mem_cons_self ..)
      cases f <;> first | rfl | cases other
    rw [receive, first]
    exact ih fun f later => others f (List.mem_cons_of_mem _ later)

end Receiver

end TopicGateway.Amqp
