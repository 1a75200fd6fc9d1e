import TopicGateway.Gateway.Router
import TopicGateway.Proofs.Broker.Memory
import TopicGateway.Proofs.Gateway.Preparing

/-! What requests leave behind on the broker, one after another, while opening and publishing may be
made to fail and to work again between them. An answer alone tells what its request did: `Accounted`
for one request, `requests_accounted` for all of a run. -/
namespace TopicGateway.Gateway

open Broker (Memory Topology)

/-- What happens at a gateway: a request with what it draws, or a switch on the broker. -/
inductive Event where
  | request (draws : Draws) (r : Http.Request)
  | failOpen (on : Bool)
  | failPublish (on : Bool)

/-- A message was taken over. -/
def Accepted (r : Http.Request) (answer : Http.Answer) : Prop :=
  r.method = "POST" ∧ answer.status = 200

instance (r : Http.Request) (answer : Http.Answer) : Decidable (Accepted r answer) :=
  inferInstanceAs (Decidable (_ ∧ _))

/-- What a request did to the broker, by its answer. A session was opened and closed again, with or
without a message behind the others, or nothing happened at all. -/
structure Accounted (topology : Topology) (r : Http.Request) (answer : Http.Answer)
    (before after : Memory) : Prop where
  accepted : Accepted r answer → ∃ message, after =
    { before.visited topology with published := before.published ++ [message] }
  failed : answer.status = 500 →
    (before.Refuses topology ∧ after = before) ∨
    (before.failPublish = true ∧ after = before.visited topology)
  other : ¬Accepted r answer → answer.status ≠ 500 → after = before

variable (s : Settings) (topology : Topology)

/-- The answer to a request, and the broker after it. -/
def serve (draws : Draws) (r : Http.Request) (broker : Memory) : Http.Answer × Memory :=
  handle s (Memory.connector topology) draws r broker

def step (broker : Memory) : Event → Memory
  | .request draws r => (serve s topology draws r broker).2
  | .failOpen on => { broker with failOpen := on }
  | .failPublish on => { broker with failPublish := on }

def run : Memory → List Event → Memory
  | broker, [] => broker
  | broker, e :: events => run (step s topology broker e) events

/-- One for a request that is accepted. -/
def credit (broker : Memory) : Event → Nat
  | .request draws r => if Accepted r (serve s topology draws r broker).1 then 1 else 0
  | .failOpen _ | .failPublish _ => 0

def acceptedCount : Memory → List Event → Nat
  | _, [] => 0
  | broker, e :: events => credit s topology broker e + acceptedCount (step s topology broker e) events

section Request

variable {topology} {r : Http.Request} {answer : Http.Answer} {broker : Memory}

/-- An answer of no consequence: it accepts nothing, and nothing failed. -/
theorem accounted_idle (refused : ¬Accepted r answer) (status : answer.status ≠ 500) :
    Accounted topology r answer broker broker where
  accepted := fun accepted => absurd accepted refused
  failed := fun failed => absurd failed status
  other := fun _ _ => rfl

theorem accounted_refusal {refusal : Refusal} (status : refusal.status = 400) :
    Accounted topology r refusal.answer broker broker := by
  have answered : refusal.answer.status = 400 := status
  refine accounted_idle ?_ ?_
  · rintro ⟨_, ok⟩
    omega
  · omega

end Request

theorem publishAnswer_accounted (draws : Draws) (route : Route) (r : Http.Request)
    (posted : r.method = "POST") (broker : Memory) :
    let served := publishAnswer s (Memory.connector topology) draws route r broker
    Accounted topology r served.1 broker served.2 := by
  unfold publishAnswer
  cases prepared : route.prepare s.defaults draws r with
  | error refusal => exact accounted_refusal (prepare_faults s.defaults draws r route refusal prepared)
  | ok p =>
    by_cases refused : refusesKey s route p.routingKey = true
    · simp only [dispatch, refused, ↓reduceIte]
      exact accounted_refusal rfl
    · simp only [dispatch, refused, Bool.false_eq_true, ↓reduceIte]
      rcases Memory.publishFresh_cases topology (outgoing draws p) broker with
        ⟨refuses, fault, eq⟩ | ⟨accepts, switch, eq⟩ | ⟨accepts, switch, eq⟩ <;> rw [eq]
      · exact ⟨fun accepted => (nomatch accepted.2), fun _ => .inl ⟨refuses, rfl⟩, fun _ _ => rfl⟩
      · exact ⟨fun accepted => (nomatch accepted.2), fun _ => .inr ⟨switch, rfl⟩,
          fun _ status => absurd rfl status⟩
      · exact ⟨fun _ => ⟨_, rfl⟩, fun status => (nomatch status),
          fun refused => absurd ⟨posted, rfl⟩ refused⟩

theorem serve_accounted (draws : Draws) (r : Http.Request) (broker : Memory) :
    Accounted topology r (serve s topology draws r broker).1 broker
      (serve s topology draws r broker).2 := by
  unfold serve handle
  split
  · split
    · exact accounted_idle (by simp_all [Accepted]) (by simp [healthAnswer, jsonAnswer])
    · split
      · exact accounted_idle (by simp_all [Accepted]) (by simp [healthAnswer, jsonAnswer])
      · exact accounted_idle (by simp [Accepted, bareAnswer]) (by simp [bareAnswer])
  · split
    · split
      · rename_i posted
        exact publishAnswer_accounted s topology draws _ r posted broker
      · exact accounted_idle (by simp [Accepted, bareAnswer]) (by simp [bareAnswer])
    · exact accounted_idle (by simp [Accepted, bareAnswer]) (by simp [bareAnswer])

/-- No session is open. -/
def Quiet (broker : Memory) : Prop :=
  broker.opened = broker.closed

theorem Accounted.quiet {topology : Topology} {r : Http.Request} {answer : Http.Answer}
    {before after : Memory} (accounted : Accounted topology r answer before after)
    (quiet : Quiet before) : Quiet after := by
  by_cases accepted : Accepted r answer
  · obtain ⟨message, rfl⟩ := accounted.accepted accepted
    exact congrArg (· + 1) quiet
  · by_cases failed : answer.status = 500
    · rcases accounted.failed failed with ⟨_, rfl⟩ | ⟨_, rfl⟩
      · exact quiet
      · exact congrArg (· + 1) quiet
    · exact accounted.other accepted failed ▸ quiet

theorem Accounted.published_length {topology : Topology} {r : Http.Request}
    {answer : Http.Answer} {before after : Memory}
    (accounted : Accounted topology r answer before after) :
    after.published.length =
      before.published.length + if Accepted r answer then 1 else 0 := by
  by_cases accepted : Accepted r answer
  · obtain ⟨message, rfl⟩ := accounted.accepted accepted
    simp [accepted]
  · by_cases failed : answer.status = 500
    · rcases accounted.failed failed with ⟨_, rfl⟩ | ⟨_, rfl⟩
      · simp [accepted]
      · simp [accepted, Memory.visited, Memory.accept]
    · simp [accounted.other accepted failed, accepted]

theorem step_quiet (broker : Memory) (e : Event) (quiet : Quiet broker) :
    Quiet (step s topology broker e) := by
  cases e with
  | request draws r => exact (serve_accounted s topology draws r broker).quiet quiet
  | failOpen on | failPublish on => exact quiet

theorem step_published_length (broker : Memory) (e : Event) :
    (step s topology broker e).published.length =
      broker.published.length + credit s topology broker e := by
  cases e with
  | request draws r => exact (serve_accounted s topology draws r broker).published_length
  | failOpen on | failPublish on => rfl

theorem run_quiet (events : List Event) (broker : Memory) (quiet : Quiet broker) :
    Quiet (run s topology broker events) := by
  induction events generalizing broker with
  | nil => exact quiet
  | cons e events ih => exact ih _ (step_quiet s topology broker e quiet)

theorem run_published_length (events : List Event) (broker : Memory) :
    (run s topology broker events).published.length =
      broker.published.length + acceptedCount s topology broker events := by
  induction events generalizing broker with
  | nil => rfl
  | cons e events ih =>
    have first := step_published_length s topology broker e
    have later := ih (step s topology broker e)
    simp only [run, acceptedCount]
    omega

theorem run_append (past future : List Event) (broker : Memory) :
    run s topology broker (past ++ future) = run s topology (run s topology broker past) future := by
  induction past generalizing broker with
  | nil => rfl
  | cons e past ih => exact ih _

/-- Each request of a run on a broker without an open session leaves behind what its answer says,
and after each part of the run no session is open and there are as many new messages as accepted
requests. -/
theorem requests_accounted (start : Memory) (quiet : Quiet start) (events : List Event) :
    (∀ past draws r future, events = past ++ .request draws r :: future →
      let before := run s topology start past
      let served := serve s topology draws r before
      Accounted topology r served.1 before served.2 ∧
        run s topology start events = run s topology served.2 future) ∧
    ∀ past, past <+: events →
      Quiet (run s topology start past) ∧
      (run s topology start past).published.length =
        start.published.length + acceptedCount s topology start past := by
  constructor
  · rintro past draws r future rfl
    exact ⟨serve_accounted s topology draws r _, run_append s topology past _ start⟩
  · intro past _
    exact ⟨run_quiet s topology past start quiet, run_published_length s topology past start⟩

def strictSettings : Settings where
  topology := .standard
  defaults := .builtIn
  policy := .reject

def zeroDraws : Draws where
  strategyId := .zero
  stamp := ⟨.zero, .zero, Message.Wire.epoch⟩
  uploadTime := Message.Wire.epoch
  sentAt := 0
  now := Message.Wire.epoch

def customRequest (body : String) : Event :=
  .request zeroDraws ⟨"POST", "/api/message/custom", [], body.toUTF8⟩

/-- One message is accepted, one is not published, one has a key that is refused, and one is sent in
vain to a broker that cannot be reached. -/
theorem custom_requests_accounted :
    let routable := customRequest "\x7b\"routing_key\":\"data.x\",\"payload\":null\x7d"
    let unroutable := customRequest "\x7b\"routing_key\":\"x\",\"payload\":[1]\x7d"
    let events := [routable, .failPublish true, routable, unroutable, .failOpen true, routable]
    Quiet Memory.fresh ∧ Quiet (run strictSettings .standard .fresh events) ∧
      (run strictSettings .standard .fresh events).published.length = 1 := by
  intro routable unroutable events
  obtain ⟨quiet, length⟩ := (requests_accounted strictSettings .standard .fresh rfl events).2
    events List.prefix_rfl
  have counted : acceptedCount strictSettings .standard .fresh events = 1 := by decide +kernel
  exact ⟨rfl, quiet, length.trans counted⟩

end TopicGateway.Gateway
