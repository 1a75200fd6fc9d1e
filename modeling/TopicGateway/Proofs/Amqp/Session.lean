import Mathlib.Data.List.Forall2
import TopicGateway.Amqp.Session
import TopicGateway.Proofs.Amqp.Delivery
import TopicGateway.Proofs.Broker.Session

/-! A session over AMQP against a session on a broker in memory. A peer that accepts everything puts
the messages together that the broker in memory records, each of them once and in the same order. Of
any other peer a call says what went wrong, and no more than the first frames of a message arrived. -/
namespace TopicGateway.Amqp

open Broker (Access Connector Fault Memory Outgoing Published Topology TransportFault)

def opening (a : Access) : List Frame :=
  [.protocolHeader, .startOk a.connectionName "PLAIN" (plainResponse a), .tuneOk a.heartbeat,
    .openConnection a.vhost, .openChannel]

def closing : List Frame :=
  [.closeChannel 200 "OK", .closeConnection 200 "OK"]

def Session.on (a : Access) (t : Topology) : Session :=
  ⟨t.exchange.name, .ofSeconds a.blockedTimeout.toNat⟩

theorem Sending.prefix_frames (sending : Sending) (frames : List Frame) :
    sending.frames frames <+: frames := by
  cases sending with
  | whole => exact List.prefix_rfl
  | broken arrived _ => exact List.take_prefix arrived frames
  | stalled arrived => exact List.take_prefix arrived frames

namespace Conduct

variable (conduct : Conduct)

/-- Either the whole message was sent, or the call tells the failure of the transport or the time
that it waited for the peer, and no more than a beginning of the message arrived. -/
theorem publish_cases (session : Session) (m : Outgoing) (received : List Frame) :
    conduct.publish session m received =
      (.ok (), received ++ messageFrames session.exchange m) ∨
    ∃ fault sent, sent <+: messageFrames session.exchange m ∧
      conduct.publish session m received = (.error fault, received ++ sent) ∧
      ((∃ cause, fault = .publish cause) ∨ fault = .blocked session.blockedTimeout) := by
  simp only [publish]
  generalize conduct.sending received (messageFrames session.exchange m) = sending
  have start := sending.prefix_frames (messageFrames session.exchange m)
  cases sending with
  | whole => exact .inl rfl
  | broken arrived cause => exact .inr ⟨_, _, start, rfl, .inl ⟨cause, rfl⟩⟩
  | stalled arrived => exact .inr ⟨_, _, start, rfl, .inr rfl⟩

theorem leave_cases (frame : Frame) (received : List Frame) :
    conduct.leave frame received = (.ok (), received ++ [frame]) ∨
    ∃ cause sent, List.Sublist sent [frame] ∧
      conduct.leave frame received = (.error cause, received ++ sent) := by
  unfold leave
  cases conduct.parting received frame with
  | answered => exact .inl rfl
  | failed cause => exact .inr ⟨cause, [frame], List.Sublist.refl _, rfl⟩
  | lost cause => exact .inr ⟨cause, [], List.nil_sublist _, by rw [List.append_nil]⟩

/-- Closing succeeds where the channel and the connection are closed, and otherwise tells the failure
of the one or the other. -/
theorem close_cases (session : Session) (received : List Frame) :
    conduct.close session received = (.ok (), received ++ closing) ∨
    ∃ cause sent, List.Sublist sent closing ∧
      conduct.close session received = (.error (.close cause), received ++ sent) := by
  rcases conduct.leave_cases (.closeChannel 200 "OK") received with
    channel | ⟨cause, first, firstOf, channel⟩
  · rcases conduct.leave_cases (.closeConnection 200 "OK") (received ++ [.closeChannel 200 "OK"])
      with connection | ⟨cause, last, lastOf, connection⟩
    · left
      simp only [close, channel, connection, Except.mapError, List.append_assoc]
      rfl
    · refine .inr ⟨cause, .closeChannel 200 "OK" :: last, lastOf.cons_cons _, ?_⟩
      simp only [close, channel, connection, List.append_assoc]
      rfl
  · rcases conduct.leave_cases (.closeConnection 200 "OK") (received ++ first) with
      connection | ⟨other, last, lastOf, connection⟩
    · refine .inr ⟨cause, first ++ [.closeConnection 200 "OK"], firstOf.append_right _, ?_⟩
      simp only [close, channel, connection, Except.mapError, List.append_assoc]
    · refine .inr ⟨other, first ++ last, firstOf.append lastOf, ?_⟩
      simp only [close, channel, connection, List.append_assoc]

/-- The peer refuses nothing, takes every message whole and answers whatever ends a session. -/
structure AcceptsEverything : Prop where
  refusal : ∀ received, conduct.refusal received = none
  sending : ∀ received frames, conduct.sending received frames = .whole
  parting : ∀ received frame, conduct.parting received frame = .answered

theorem acceptsEverything_accepting : accepting.AcceptsEverything :=
  ⟨fun _ => rfl, fun _ _ => rfl, fun _ _ => rfl⟩

namespace AcceptsEverything

variable {conduct : Conduct} (accepts : conduct.AcceptsEverything) (a : Access) (t : Topology)
include accepts

theorem ask_eq (frame : Frame) (received : List Frame) :
    conduct.ask frame received = (.ok (), received ++ [frame]) := by
  simp only [ask, accepts.refusal]

theorem declare_eq (ds : List Declaration) (received : List Frame) :
    conduct.declare ds received = (.ok (), received ++ ds.map Declaration.frame) := by
  induction ds generalizing received with
  | nil => simp [declare]
  | cons d ds ih => simp [declare, accepts.ask_eq, ih]

theorem openSession_eq (received : List Frame) :
    conduct.openSession a t received = (.ok (.on a t),
      received ++ opening a ++ (declarations t).map Declaration.frame) := by
  simp [openSession, connect, accepts.ask_eq, accepts.declare_eq, opening, Session.on]

theorem publish_eq (session : Session) (m : Outgoing) (received : List Frame) :
    conduct.publish session m received =
      (.ok (), received ++ messageFrames session.exchange m) := by
  simp only [publish, accepts.sending]
  rfl

theorem close_eq (session : Session) (received : List Frame) :
    conduct.close session received = (.ok (), received ++ closing) := by
  simp [close, leave, accepts.parting, closing, Except.mapError]

theorem publishAll_eq (session : Session) (messages : List Outgoing) (received : List Frame) :
    (connector (.answering conduct) a t).publishAll session messages received =
      (messages.map fun _ => .ok (),
        received ++ messages.flatMap (messageFrames session.exchange)) := by
  induction messages generalizing received with
  | nil => simp [Connector.publishAll]
  | cons m messages ih =>
    have sent : (connector (.answering conduct) a t).publish session m received =
        (.ok (), received ++ messageFrames session.exchange m) := accepts.publish_eq session m received
    simp only [Connector.publishAll, sent, ih]
    simp

end AcceptsEverything

end Conduct

variable (a : Access) (t : Topology)

def sessionFrames (messages : List Outgoing) : List Frame :=
  opening a ++ (declarations t).map Declaration.frame ++
    messages.flatMap (messageFrames t.exchange.name) ++ closing

theorem Conduct.AcceptsEverything.runSession_eq {conduct : Conduct}
    (accepts : conduct.AcceptsEverything) (messages : List Outgoing) (received : List Frame) :
    (connector (.answering conduct) a t).runSession messages received =
      (.ok (.allOk messages), received ++ sessionFrames a t messages) := by
  have opened : (connector (.answering conduct) a t).openSession received = _ :=
    accepts.openSession_eq a t received
  have closed (received : List Frame) :
      (connector (.answering conduct) a t).close (.on a t) received = _ :=
    accepts.close_eq (.on a t) received
  simp only [Connector.runSession, opened, accepts.publishAll_eq, closed]
  simp [Connector.Answers.allOk, sessionFrames, Session.on]

theorem opening_others : ∀ f ∈ opening a, f.ofMessage = false := by
  intro f member
  simp only [opening, List.mem_cons, List.not_mem_nil, or_false] at member
  rcases member with rfl | rfl | rfl | rfl | rfl <;> rfl

theorem declarations_others : ∀ f ∈ (declarations t).map Declaration.frame, f.ofMessage = false := by
  intro f member
  simp only [declarations, List.map_cons, List.map_append, List.map_map, List.cons_append,
    List.mem_cons, List.mem_append, List.mem_map] at member
  rcases member with rfl | ⟨q, _, rfl⟩ | ⟨b, _, rfl⟩ <;> rfl

theorem closing_others : ∀ f ∈ closing, f.ofMessage = false := by
  decide

theorem deliveries_sessionFrames (messages : List Outgoing) :
    deliveries (sessionFrames a t messages) =
      some (messages.map (.ofOutgoing t.exchange.name)) := by
  unfold deliveries sessionFrames
  rw [Receiver.receive_append, Receiver.receive_append, Receiver.receive_append, Receiver.idle,
    Receiver.receive_others (opening_others a), Option.bind_some,
    Receiver.receive_others (declarations_others t), Option.bind_some, Receiver.receive_messages,
    Option.bind_some, Receiver.receive_others closing_others]
  rfl

def Frame.isPublish : Frame → Bool
  | .publish .. => true
  | _ => false

theorem filter_others {frames : List Frame} (others : ∀ f ∈ frames, f.ofMessage = false) :
    frames.filter Frame.isPublish = [] := by
  apply List.filter_eq_nil_iff.2
  intro f member
  have other := others f member
  cases f <;> first | exact Bool.false_ne_true | cases other

theorem filter_bodyFrames (body : List UInt8) : (bodyFrames body).filter Frame.isPublish = [] := by
  apply List.filter_eq_nil_iff.2
  intro f member
  obtain ⟨piece, _, rfl⟩ := List.mem_map.1 member
  exact Bool.false_ne_true

theorem filter_messages (exchange : String) (messages : List Outgoing) :
    (messages.flatMap (messageFrames exchange)).filter Frame.isPublish =
      messages.map fun m => .publish exchange m.routingKey ⟨false, false⟩ := by
  induction messages with
  | nil => rfl
  | cons m messages ih =>
    have first : (messageFrames exchange m).filter Frame.isPublish =
        [.publish exchange m.routingKey ⟨false, false⟩] :=
      congrArg (List.cons _) (filter_bodyFrames m.envelope.bytes)
    rw [List.flatMap_cons, List.filter_append, first, ih]
    rfl

theorem filter_sessionFrames (messages : List Outgoing) :
    (sessionFrames a t messages).filter Frame.isPublish =
      messages.map fun m => .publish t.exchange.name m.routingKey ⟨false, false⟩ := by
  simp only [sessionFrames, List.filter_append, filter_others (opening_others a),
    filter_others (declarations_others t), filter_others closing_others, filter_messages,
    List.nil_append, List.append_nil]

/-- A session on a broker in memory and one on a peer over AMQP, with the messages that the one
recorded and the frames that the other received between the declarations and the end. -/
structure SameMessages (conduct : Conduct) (messages : List Outgoing) (broker : Memory)
    (recorded : List Published) (content : List Frame) : Prop where
  inMemory : (Memory.connector t).runSession messages broker = (.ok (.allOk messages),
    { broker.visited t with published := broker.published ++ recorded })
  overAmqp : (connector (.answering conduct) a t).runSession messages [] = (.ok (.allOk messages),
    opening a ++ (declarations t).map Declaration.frame ++ content ++ closing)
  recorded_eq : recorded = messages.map (Memory.record t)
  /-- One publish for each message, in the order of the calls, and none outside. -/
  publishes : (opening a ++ (declarations t).map Declaration.frame ++ content ++ closing).filter
      Frame.isPublish =
    recorded.map fun p => .publish t.exchange.name p.routingKey ⟨false, false⟩
  /-- The peer puts as many messages together as were recorded, and each carries the one in its
  place. -/
  delivered : ∃ delivered,
    deliveries (opening a ++ (declarations t).map Declaration.frame ++ content ++ closing) =
      some delivered ∧
    List.Forall₂ (Delivery.Carries t.exchange.name) recorded delivered

/-- Publishing messages on one session has the same effect on either broker: what the one records,
with body, properties and key, is what the other puts together from the frames it receives. -/
theorem sessions_agree (conduct : Conduct) (everything : conduct.AcceptsEverything)
    (messages : List Outgoing) (broker : Memory) (accepts : ¬broker.Refuses t)
    (working : broker.failPublish = false) :
    ∃ recorded content, SameMessages a t conduct messages broker recorded content := by
  refine ⟨messages.map (Memory.record t), messages.flatMap (messageFrames t.exchange.name), ?_⟩
  constructor
  · exact Memory.runSession_eq messages accepts working
  · have run := everything.runSession_eq a t messages []
    rw [List.nil_append] at run
    exact run
  · rfl
  · have publishes := filter_sessionFrames a t messages
    rw [List.map_map]
    exact publishes
  · refine ⟨_, deliveries_sessionFrames a t messages, ?_⟩
    rw [List.forall₂_map_left_iff, List.forall₂_map_right_iff]
    exact List.forall₂_same.2 fun m _ => Delivery.carries_ofOutgoing t.exchange.name t m

/-- Two messages under keys of their own, one after the other. -/
theorem two_messages_agree :
    Conduct.accepting.AcceptsEverything ∧ ¬Memory.fresh.Refuses .standard ∧
    ∃ recorded content, SameMessages .standard .standard .accepting
      [Memory.under "data.first", Memory.under "strategy.second"] .fresh recorded content := by
  have accepts : ¬Memory.fresh.Refuses .standard := by
    simp [Memory.Refuses, Memory.Conflicts, Memory.fresh]
  exact ⟨Conduct.acceptsEverything_accepting, accepts,
    sessions_agree .standard .standard .accepting Conduct.acceptsEverything_accepting _ .fresh
      accepts rfl⟩

end TopicGateway.Amqp
