import TopicGateway.Proofs.Amqp.Session

/-! Declaring a topology: the exchange, then the queues, then the bindings, each only once everything
before it was accepted. Where the peer refuses one of them, that one is the last that it is asked for;
the connection is closed and there is no session to publish on. -/
namespace TopicGateway.Amqp

open Broker (Access Connector Fault Outgoing Topology TransportFault)

def declarationFrames (t : Topology) : List Frame :=
  .declareExchange t.exchange.name "topic" { durable := t.exchange.durable } [] ::
    (t.queues.map fun q => .declareQueue q.name { durable := q.durable } []) ++
    (t.bindings.map fun b => .bindQueue b.queue t.exchange.name b.pattern {} [])

def itemNames (t : Topology) : List String :=
  ("exchange " ++ t.exchange.name) ::
    (t.queues.map fun q => "queue " ++ q.name) ++
    (t.bindings.map fun b => "binding " ++ b.pattern ++ " -> " ++ b.queue)

def Frame.declares : Frame → Bool
  | .declareExchange .. | .declareQueue .. | .bindQueue .. => true
  | _ => false

/-- The peer answers the frame before the client goes on. -/
def Frame.answered : Frame → Bool
  | .startOk .. | .openConnection _ | .openChannel => true
  | f => f.declares

/-- The peer refuses none of these frames, which it receives behind others. -/
def Conduct.Accepts (conduct : Conduct) : List Frame → List Frame → Prop
  | _, [] => True
  | received, f :: frames =>
    (f.answered = true → conduct.refusal (received ++ [f]) = none) ∧
      conduct.Accepts (received ++ [f]) frames

instance decidableAccepts (conduct : Conduct) :
    (received frames : List Frame) → Decidable (conduct.Accepts received frames)
  | _, [] => isTrue trivial
  | received, f :: frames =>
    have := decidableAccepts conduct (received ++ [f]) frames
    inferInstanceAs (Decidable (_ ∧ _))

variable {conduct : Conduct} {received : List Frame}

theorem accepts_append (first second : List Frame) : conduct.Accepts received (first ++ second) ↔
    conduct.Accepts received first ∧ conduct.Accepts (received ++ first) second := by
  induction first generalizing received with
  | nil => simp [Conduct.Accepts]
  | cons f first ih => simp [Conduct.Accepts, ih, and_assoc]

theorem Conduct.Accepts.of_start {first frames : List Frame}
    (accepted : conduct.Accepts received frames) (start : first <+: frames) :
    conduct.Accepts received first := by
  obtain ⟨second, rfl⟩ := start
  exact ((accepts_append first second).1 accepted).1

/-- Either all frames are accepted or there is a first one that is refused. -/
theorem accepts_or_refused (received frames : List Frame) : conduct.Accepts received frames ∨
    ∃ k cause, k < frames.length ∧ conduct.Accepts received (frames.take k) ∧
      conduct.refusal (received ++ frames.take (k + 1)) = some cause := by
  induction frames generalizing received with
  | nil => exact .inl trivial
  | cons f frames ih =>
    by_cases taken : f.answered = true → conduct.refusal (received ++ [f]) = none
    · rcases ih (received ++ [f]) with others | ⟨k, cause, bound, others, refused⟩
      · exact .inl ⟨taken, others⟩
      · refine .inr ⟨k + 1, cause, Nat.succ_lt_succ bound, ⟨taken, others⟩, ?_⟩
        simpa using refused
    · obtain ⟨_, refused⟩ := Classical.not_imp.1 taken
      obtain ⟨cause, closed⟩ := Option.ne_none_iff_exists'.1 refused
      exact .inr ⟨0, cause, Nat.zero_lt_succ _, trivial, closed⟩

/-- What stands before an entry that is not among the last ones is without them. -/
theorem prefix_of_notMem_last {α : Type} {start before after last : List α} {x y : α}
    (split : start ++ y :: last = before ++ x :: after) (other : x ∉ last) : before <+: start := by
  rcases List.append_eq_append_iff.1 split with ⟨more, rfl, tail⟩ | ⟨more, rfl, _⟩
  · cases more with
    | nil => exact ⟨[], by simp⟩
    | cons z more =>
      have member : x ∈ last := by
        rw [(List.cons.inj tail).2]
        exact List.mem_append_right _ List.mem_cons_self
      exact absurd member other
  · exact List.prefix_append _ _

section Declarations

variable (t : Topology)

theorem frames_declarations : (declarations t).map Declaration.frame = declarationFrames t := by
  simp [declarations, declarationFrames, Function.comp_def]

theorem items_declarations : (declarations t).map Declaration.item = itemNames t := by
  simp [declarations, itemNames, Function.comp_def]

theorem length_declarationFrames :
    (declarationFrames t).length = 1 + t.queues.length + t.bindings.length := by
  simp only [declarationFrames, List.length_append, List.length_cons, List.length_map]
  omega

theorem take_succ_declarationFrames {t : Topology} {k : Nat} (bound : k < (declarations t).length) :
    (declarationFrames t).take (k + 1) =
      (declarationFrames t).take k ++ [(declarations t)[k].frame] := by
  rw [← frames_declarations, ← List.map_take, ← List.map_take,
    List.take_succ_eq_append_getElem bound, List.map_append]
  rfl

theorem answered_declarations : ∀ d ∈ declarations t, d.frame.answered = true := by
  intro d member
  simp only [declarations, List.cons_append, List.mem_cons, List.mem_append, List.mem_map] at member
  rcases member with rfl | ⟨q, _, rfl⟩ | ⟨b, _, rfl⟩ <;> rfl

end Declarations

theorem ask_of_accepted {f : Frame} (accepted : conduct.refusal (received ++ [f]) = none) :
    conduct.ask f received = (.ok (), received ++ [f]) := by
  simp only [Conduct.ask, accepted]

theorem ask_of_refused {f : Frame} {cause : TransportFault}
    (refused : conduct.refusal (received ++ [f]) = some cause) :
    conduct.ask f received = (.error cause, received ++ [f]) := by
  simp only [Conduct.ask, refused]

/-- Declarations that are accepted go out one after another, whatever comes behind them. -/
theorem declare_append {first : List Declaration} (answered : ∀ d ∈ first, d.frame.answered = true)
    (accepted : conduct.Accepts received (first.map Declaration.frame))
    (second : List Declaration) :
    conduct.declare (first ++ second) received =
      conduct.declare second (received ++ first.map Declaration.frame) := by
  induction first generalizing received with
  | nil => simp
  | cons d first ih =>
    obtain ⟨taken, others⟩ := accepted
    have asked := ask_of_accepted (taken (answered d (List.mem_cons_self ..)))
    have later := ih (fun d member => answered d (List.mem_cons_of_mem _ member)) others
    simp only [List.cons_append, Conduct.declare, asked, later, List.map_cons, List.append_assoc,
      List.nil_append]

theorem declare_of_refused {d : Declaration} {cause : TransportFault}
    (refused : conduct.refusal (received ++ [d.frame]) = some cause) (after : List Declaration) :
    conduct.declare (d :: after) received = (.error (d, cause), received ++ [d.frame]) := by
  simp only [Conduct.declare, ask_of_refused refused]

theorem mem_givingUp {f : Frame} {reason : String} {cause : TransportFault}
    (member : f ∈ Conduct.givingUp reason cause) : f = .closeConnection 200 reason := by
  cases cause with
  | channelClosed closure => exact List.mem_singleton.1 member
  | io reason => cases member
  | connectionClosed closure => cases member

section Opening

variable {a : Access} {t : Topology}

theorem opening_declares (a : Access) : ∀ f ∈ opening a, f.declares = false := by
  intro f member
  simp only [opening, List.mem_cons, List.not_mem_nil, or_false] at member
  rcases member with rfl | rfl | rfl | rfl | rfl <;> rfl

/-- A fault of the opening, after which nothing was declared or published. -/
def FailsEarly (conduct : Conduct) (a : Access) (t : Topology) (received : List Frame) : Prop :=
  ∃ fault sent, (∀ f ∈ sent, f.declares = false ∧ f.ofMessage = false) ∧
    conduct.openSession a t received = (.error fault, received ++ sent)

theorem opening_early (a : Access) :
    ∀ f ∈ opening a, f.declares = false ∧ f.ofMessage = false :=
  fun f member => ⟨opening_declares a f member, opening_others a f member⟩

/-- Either the connection or the channel is refused, or both are open. -/
theorem refused_or_accepts (a : Access) (t : Topology) (received : List Frame) :
    FailsEarly conduct a t received ∨ conduct.Accepts received (opening a) := by
  have cut (k : Nat) : ∀ f ∈ (opening a).take k, f.declares = false ∧ f.ofMessage = false :=
    fun f member => opening_early a f (List.mem_of_mem_take member)
  cases start : conduct.refusal (received ++
      [.protocolHeader, .startOk a.connectionName "PLAIN" (plainResponse a)]) with
  | some cause =>
    refine .inl ⟨.connect a.target cause, _, cut 2, ?_⟩
    simp [Conduct.openSession, Conduct.connect, Conduct.ask, start, opening]
  | none =>
    cases connection : conduct.refusal (received ++ [.protocolHeader,
        .startOk a.connectionName "PLAIN" (plainResponse a), .tuneOk a.heartbeat,
        .openConnection a.vhost]) with
    | some cause =>
      refine .inl ⟨.connect a.target cause, _, cut 4, ?_⟩
      simp [Conduct.openSession, Conduct.connect, Conduct.ask, start, connection, opening]
    | none =>
      cases channel : conduct.refusal (received ++ [.protocolHeader,
          .startOk a.connectionName "PLAIN" (plainResponse a), .tuneOk a.heartbeat,
          .openConnection a.vhost, .openChannel]) with
      | some cause =>
        refine .inl ⟨.channel cause,
          opening a ++ Conduct.givingUp "channel open failed" cause, fun f member => ?_, ?_⟩
        · rcases List.mem_append.1 member with opened | last
          · exact opening_early a f opened
          · rw [mem_givingUp last]
            exact ⟨rfl, rfl⟩
        · simp [Conduct.openSession, Conduct.connect, Conduct.ask, start, connection, channel,
            opening]
      | none =>
        exact .inr (by simp [Conduct.Accepts, opening, start, connection, channel, Frame.answered,
          Frame.declares])

/-- Once the connection and the channel are open, the declarations decide. -/
theorem openSession_of_accepts (accepted : conduct.Accepts received (opening a))
    (outcome : Except (Declaration × TransportFault) Unit) (sent : List Frame)
    (declared : conduct.declare (declarations t) (received ++ opening a) = (outcome, sent)) :
    conduct.openSession a t received = match outcome with
      | .ok () => (.ok (.on a t), sent)
      | .error (d, cause) => (.error (.topology d.item cause),
          sent ++ Conduct.givingUp "topology declaration failed" cause) := by
  simp only [Conduct.Accepts, opening, Frame.answered, Frame.declares, List.append_assoc,
    List.cons_append, List.nil_append, forall_const] at accepted declared
  cases outcome with
  | ok u => simp [Conduct.openSession, Conduct.connect, Conduct.ask, accepted, declared, Session.on]
  | error e => simp [Conduct.openSession, Conduct.connect, Conduct.ask, accepted, declared]

theorem openSession_eq_ok
    (accepted : conduct.Accepts received (opening a ++ declarationFrames t)) :
    conduct.openSession a t received =
      (.ok (.on a t), received ++ opening a ++ declarationFrames t) := by
  obtain ⟨opened, others⟩ := (accepts_append _ _).1 accepted
  apply openSession_of_accepts opened (.ok ())
  rw [← frames_declarations] at others ⊢
  have declared := declare_append (answered_declarations t) others []
  rw [List.append_nil] at declared
  exact declared

/-- The first declaration that is refused is the last frame but for the closing. -/
theorem openSession_eq_error {k : Nat} {cause : TransportFault}
    (bound : k < (declarations t).length)
    (accepted : conduct.Accepts received (opening a ++ (declarationFrames t).take k))
    (refused : conduct.refusal (received ++ opening a ++ (declarationFrames t).take (k + 1)) =
      some cause) :
    conduct.openSession a t received = (.error (.topology (declarations t)[k].item cause),
      received ++ opening a ++ (declarationFrames t).take (k + 1) ++
        Conduct.givingUp "topology declaration failed" cause) := by
  obtain ⟨opened, others⟩ := (accepts_append _ _).1 accepted
  have answered : ∀ d ∈ (declarations t).take k, d.frame.answered = true :=
    fun d member => answered_declarations t d (List.mem_of_mem_take member)
  have earlier : (declarationFrames t).take k = ((declarations t).take k).map Declaration.frame := by
    rw [← frames_declarations, List.map_take]
  rw [take_succ_declarationFrames bound, earlier, ← List.append_assoc] at refused ⊢
  rw [earlier] at others
  apply openSession_of_accepts opened (.error ((declarations t)[k], cause))
  calc conduct.declare (declarations t) (received ++ opening a)
      = conduct.declare ((declarations t).take k ++
            (declarations t)[k] :: (declarations t).drop (k + 1)) (received ++ opening a) := by
          rw [List.getElem_cons_drop, List.take_append_drop]
    _ = conduct.declare ((declarations t)[k] :: (declarations t).drop (k + 1))
          (received ++ opening a ++ ((declarations t).take k).map Declaration.frame) :=
        declare_append answered others _
    _ = _ := declare_of_refused refused _

/-- Every opening fails before the declarations, or at one of them, or not at all. -/
theorem openSession_cases (conduct : Conduct) (a : Access) (t : Topology) (received : List Frame) :
    FailsEarly conduct a t received ∨
    (∃ k cause, ∃ bound : k < (declarations t).length,
      conduct.Accepts received (opening a ++ (declarationFrames t).take k) ∧
      conduct.openSession a t received = (.error (.topology (declarations t)[k].item cause),
        received ++ opening a ++ (declarationFrames t).take (k + 1) ++
          Conduct.givingUp "topology declaration failed" cause)) ∨
    (conduct.Accepts received (opening a ++ declarationFrames t) ∧
      conduct.openSession a t received =
        (.ok (.on a t), received ++ opening a ++ declarationFrames t)) := by
  rcases refused_or_accepts a t received with early | opened
  · exact .inl early
  rcases accepts_or_refused (received ++ opening a) (declarationFrames t) with
    others | ⟨k, cause, bound, others, refused⟩
  · have all := (accepts_append _ _).2 ⟨opened, others⟩
    exact .inr (.inr ⟨all, openSession_eq_ok all⟩)
  · have all := (accepts_append _ _).2 ⟨opened, others⟩
    rw [← frames_declarations, List.length_map] at bound
    exact .inr (.inl ⟨k, cause, bound, all, openSession_eq_error bound all refused⟩)

/-- Whatever the peer answers, a declaration goes out only where it accepted everything before. -/
theorem accepted_of_declares {before after : List Frame} {f : Frame}
    (sent : (conduct.openSession a t received).2 = received ++ before ++ f :: after)
    (declares : f.declares = true) : conduct.Accepts received before := by
  rcases openSession_cases conduct a t received with
    ⟨fault, frames, others, eq⟩ | ⟨k, cause, bound, accepted, eq⟩ | ⟨accepted, eq⟩
  · rw [eq, List.append_assoc, List.append_cancel_left_eq] at sent
    have other := (others f (by simp [sent])).1
    rw [declares] at other
    cases other
  · rw [eq, take_succ_declarationFrames bound] at sent
    simp only [List.append_assoc, List.append_cancel_left_eq, List.singleton_append] at sent
    have other : f ∉ Conduct.givingUp "topology declaration failed" cause := by
      intro member
      rw [mem_givingUp member] at declares
      cases declares
    rw [← List.append_assoc] at sent
    exact accepted.of_start (prefix_of_notMem_last sent other)
  · rw [eq, List.append_assoc, List.append_assoc, List.append_cancel_left_eq] at sent
    exact accepted.of_start ⟨f :: after, sent.symm⟩

end Opening

/-- What is sent up to a declaration that is refused, and after it, is part of no message. -/
theorem refused_others (a : Access) (t : Topology) (k : Nat) (reason : String)
    (cause : TransportFault) : ∀ f ∈ opening a ++ (declarationFrames t).take k ++
      Conduct.givingUp reason cause, f.ofMessage = false := by
  intro f member
  rcases List.mem_append.1 member with before | last
  · rcases List.mem_append.1 before with opened | declared
    · exact opening_others a f opened
    · rw [← frames_declarations] at declared
      exact declarations_others t f (List.mem_of_mem_take declared)
  · rw [mem_givingUp last]
    rfl

/-- What comes of a session whose declaration of this item was refused: nothing is published, also
where messages wait for it, and the connection is closed if the refusal did not do that already. -/
structure Stopped (c : Connector (List Frame) Session) (received sent : List Frame) (item : String)
    (cause : TransportFault) : Prop where
  fault : c.openSession received = (.error (.topology item cause), received ++ sent)
  unpublished : ∀ messages,
    c.runSession messages received = (.error (.topology item cause), received ++ sent)
  others : ∀ f ∈ sent, f.ofMessage = false
  closed : ∀ closure, cause = .channelClosed closure →
    sent.getLast? = some (.closeConnection 200 "topology declaration failed")

/-- A topology is declared item by item. A peer that accepts everything receives all declarations in
their order, behind the opening of the channel; whatever it answers, each of them is sent only where
everything before was accepted; and if it refuses the declaration behind the first `k`, it receives no
other, and the fault names the item. -/
theorem declared_item_by_item (conduct : Conduct) (a : Access) (t : Topology)
    (received : List Frame) :
    let c := connector (.answering conduct) a t
    (declarationFrames t).length = 1 + t.queues.length + t.bindings.length ∧
    (conduct.Accepts received (opening a ++ declarationFrames t) → c.openSession received =
      (.ok (.on a t), received ++ opening a ++ declarationFrames t)) ∧
    (∀ before f after, (c.openSession received).2 = received ++ before ++ f :: after →
      f.declares = true → conduct.Accepts received before) ∧
    ∀ k cause, k < (declarationFrames t).length →
      conduct.Accepts received (opening a ++ (declarationFrames t).take k) →
      conduct.refusal (received ++ opening a ++ (declarationFrames t).take (k + 1)) = some cause →
      ∃ item, (itemNames t)[k]? = some item ∧
        Stopped c received (opening a ++ (declarationFrames t).take (k + 1) ++
          Conduct.givingUp "topology declaration failed" cause) item cause := by
  intro c
  refine ⟨length_declarationFrames t, openSession_eq_ok,
    fun before f after => accepted_of_declares, ?_⟩
  intro k cause bound accepted refused
  rw [← frames_declarations, List.length_map] at bound
  have stopped := openSession_eq_error bound accepted refused
  refine ⟨(declarations t)[k].item, ?_, ?_⟩
  · rw [← items_declarations, List.getElem?_map, List.getElem?_eq_getElem bound]
    rfl
  have fault : c.openSession received = (.error (.topology (declarations t)[k].item cause),
      received ++ (opening a ++ (declarationFrames t).take (k + 1) ++
        Conduct.givingUp "topology declaration failed" cause)) := by
    rw [← List.append_assoc, ← List.append_assoc]
    exact stopped
  refine ⟨fault, ?_, ?_, ?_⟩
  · intro messages
    simp only [Connector.runSession, fault]
  · exact refused_others a t (k + 1) _ cause
  · rintro closure rfl
    exact List.getLast?_concat

def refusingQueue (name : String) : Conduct where
  refusal received := match received.getLast? with
    | some (.declareQueue queue _ _) =>
      if queue = name then some (.channelClosed ⟨406, "NO"⟩) else none
    | _ => none
  sending _ _ := .whole
  parting _ _ := .answered

/-- The second queue of the standard topology is refused: one queue is declared, no other is asked
for, and nothing is bound. -/
theorem second_queue_refused :
    let conduct := refusingQueue "strategy_queue"
    let received := opening .standard ++ (declarationFrames .standard).take 2
    let closure := ⟨406, "NO"⟩
    conduct.Accepts [] received ∧
    conduct.refusal ([] ++ opening .standard ++ (declarationFrames .standard).take 3) =
      some (.channelClosed closure) ∧
    ∃ item, (itemNames .standard)[2]? = some item ∧
      Stopped (connector (.answering conduct) .standard .standard) []
        (opening .standard ++ (declarationFrames .standard).take 3 ++
          [.closeConnection 200 "topology declaration failed"]) item (.channelClosed closure) := by
  intro conduct received closure
  have accepted : conduct.Accepts [] received := by decide
  have refused : conduct.refusal
      ([] ++ opening .standard ++ (declarationFrames .standard).take 3) =
        some (.channelClosed closure) := by decide
  exact ⟨accepted, refused,
    (declared_item_by_item conduct .standard .standard []).2.2.2 2 _ (by decide) accepted refused⟩

/-- One message on a session of its own. Nothing of it is sent where there is no session; otherwise
a beginning of it arrives, and all of it where the publishing is said to have succeeded. -/
theorem publishFresh_cases (conduct : Conduct) (a : Access) (t : Topology) (m : Outgoing)
    (received : List Frame) :
    (∃ fault sent, (∀ f ∈ sent, f.ofMessage = false) ∧
      (connector (.answering conduct) a t).publishFresh m received =
        (.error fault, received ++ sent)) ∨
    ∃ published sent last, sent <+: messageFrames t.exchange.name m ∧ List.Sublist last closing ∧
      (published = true → sent = messageFrames t.exchange.name m) ∧
      (connector (.answering conduct) a t).publishFresh m received = (.ok published,
        received ++ opening a ++ declarationFrames t ++ sent ++ last) := by
  rcases openSession_cases conduct a t received with
    ⟨fault, sent, others, eq⟩ | ⟨k, cause, bound, accepted, eq⟩ | ⟨accepted, eq⟩
  · exact .inl ⟨fault, sent, fun f member => (others f member).2,
      Connector.publishFresh_of_refused eq m⟩
  · rw [List.append_assoc, List.append_assoc, ← List.append_assoc (opening a)] at eq
    exact .inl ⟨_, _, refused_others a t (k + 1) _ cause, Connector.publishFresh_of_refused eq m⟩
  · right
    have closed (frames : List Frame) : ∃ ending last, List.Sublist last closing ∧
        conduct.close (.on a t) frames = (ending, frames ++ last) := by
      rcases conduct.close_cases (.on a t) frames with all | ⟨cause, last, part, failed⟩
      · exact ⟨_, closing, List.Sublist.refl _, all⟩
      · exact ⟨_, last, part, failed⟩
    let c := connector (.answering conduct) a t
    rcases conduct.publish_cases (.on a t) m (received ++ opening a ++ declarationFrames t) with
      whole | ⟨fault, sent, start, failed, _⟩
    · obtain ⟨ending, last, part, left⟩ := closed (received ++ opening a ++
        declarationFrames t ++ messageFrames t.exchange.name m)
      have went := Connector.publishFresh_of_opened (c := c) eq whole left
      exact ⟨true, _, last, List.prefix_rfl, part, fun _ => rfl, went⟩
    · obtain ⟨ending, last, part, left⟩ := closed (received ++ opening a ++
        declarationFrames t ++ sent)
      have went := Connector.publishFresh_of_opened (c := c) eq failed left
      exact ⟨false, sent, last, start, part, nofun, went⟩

end TopicGateway.Amqp
