import TopicGateway.Proofs.Broker.Topology
import TopicGateway.Proofs.Gateway.Accounting
import TopicGateway.Proofs.Gateway.Concealment

/-! Gateways that differ in their policy for unroutable keys, run side by side on the same requests.
The policy is a matter of custom messages that match no binding; nothing else can tell which of the two
a gateway has, although the strays that one of them lets through open sessions of their own. -/
namespace TopicGateway

namespace Broker

theorem Memory.routedTo_ne_nil {t : Topology} {m : Outgoing}
    (routable : t.isRoutable m.routingKey = true) : (record t m).routedTo ≠ [] := by
  intro lost
  have empty : t.matchingQueues m.routingKey = [] := lost
  simp [Topology.isRoutable, empty] at routable

namespace Memory

/-- Sessions of this topology are opened and used alike on both brokers. -/
structure Alike (t : Topology) (a b : Memory) : Prop where
  failOpen : a.failOpen = b.failOpen
  failPublish : a.failPublish = b.failPublish
  conflicts : a.Conflicts t ↔ b.Conflicts t

/-- Messages behind those before them, and sessions. -/
structure Gain where
  messages : List Published
  opened : Nat
  closed : Nat
  declarations : Nat

/-- The broker has this more than before. -/
structure Gained (gain : Gain) (before after : Memory) : Prop where
  published : after.published = before.published ++ gain.messages
  opened : after.opened = before.opened + gain.opened
  closed : after.closed = before.closed + gain.closed
  declarations : after.declarations = before.declarations + gain.declarations

variable {t : Topology} {a b c : Memory}

theorem Alike.refl (a : Memory) : Alike t a a :=
  ⟨rfl, rfl, Iff.rfl⟩

theorem Alike.symm (alike : Alike t a b) : Alike t b a :=
  ⟨alike.failOpen.symm, alike.failPublish.symm, alike.conflicts.symm⟩

theorem Alike.trans (first : Alike t a b) (second : Alike t b c) : Alike t a c :=
  ⟨first.failOpen.trans second.failOpen, first.failPublish.trans second.failPublish,
    first.conflicts.trans second.conflicts⟩

theorem Alike.refuses (alike : Alike t a b) : a.Refuses t ↔ b.Refuses t := by
  unfold Refuses
  rw [alike.failOpen, alike.conflicts]

/-- A message that is lost on one of them is lost on the other. -/
theorem Alike.loses (alike : Alike t a b) :
    (a.Refuses t ∨ a.failPublish = true) ↔ (b.Refuses t ∨ b.failPublish = true) := by
  rw [alike.refuses, alike.failPublish]

theorem gained_nothing : Gained ⟨[], 0, 0, 0⟩ a a :=
  ⟨(List.append_nil _).symm, rfl, rfl, rfl⟩

theorem gained_visited (t : Topology) (a : Memory) : Gained ⟨[], 1, 1, 1⟩ a (a.visited t) :=
  ⟨(List.append_nil _).symm, rfl, rfl, rfl⟩

theorem gained_delivered (t : Topology) (m : Outgoing) (a : Memory) :
    Gained ⟨[record t m], 1, 1, 1⟩ a (a.delivered t m) :=
  ⟨rfl, rfl, rfl, rfl⟩

/-- A topology that was accepted is declared from then on, and it does not conflict with itself. -/
theorem alike_visited (accepts : ¬a.Refuses t) : Alike t a (a.visited t) where
  failOpen := rfl
  failPublish := rfl
  conflicts := by
    constructor
    · exact fun conflicts => absurd (Or.inr conflicts) accepts
    · rintro ⟨existing, declared, other⟩
      cases declared
      exact absurd rfl other

/-- Publishing changes nothing about how the next message fares. -/
theorem alike_publishFresh (m : Outgoing) (a : Memory) :
    Alike t a ((connector t).publishFresh m a).2 := by
  rcases publishFresh_cases t m a with ⟨_, fault, eq⟩ | ⟨accepts, _, eq⟩ | ⟨accepts, _, eq⟩ <;> rw [eq]
  · exact .refl a
  · exact alike_visited accepts
  · have visited := alike_visited accepts
    exact ⟨visited.failOpen, visited.failPublish, visited.conflicts⟩

theorem publishFresh_published (t : Topology) (m : Outgoing) (a : Memory) :
    ((connector t).publishFresh m a).2.published = a.published ∨
    ((connector t).publishFresh m a).2.published = a.published ++ [record t m] := by
  rcases publishFresh_cases t m a with ⟨_, _, eq⟩ | ⟨_, _, eq⟩ | ⟨_, _, eq⟩ <;> rw [eq]
  · exact .inl rfl
  · exact .inl rfl
  · exact .inr rfl

/-- A message goes out on both brokers or on neither, and both gain the same by it. -/
theorem Alike.publishFresh (alike : Alike t a b) (m : Outgoing) :
    (connector t).sends m a = (connector t).sends m b ∧
    ∃ gain, Gained gain a ((connector t).publishFresh m a).2 ∧
      Gained gain b ((connector t).publishFresh m b).2 := by
  unfold Connector.sends
  -- Both brokers are in the same of the three cases: the others contradict `alike`.
  rcases publishFresh_cases t m a with ⟨refuses, _, eq⟩ | ⟨accepts, switch, eq⟩ | ⟨accepts, switch, eq⟩
  · rcases publishFresh_cases t m b with ⟨_, _, other⟩ | ⟨accepts, _⟩ | ⟨accepts, _⟩
    · rw [eq, other]
      exact ⟨rfl, _, gained_nothing, gained_nothing⟩
    all_goals exact absurd (alike.refuses.1 refuses) accepts
  · rcases publishFresh_cases t m b with ⟨refuses, _⟩ | ⟨_, _, other⟩ | ⟨_, opposite, _⟩
    · exact absurd (alike.refuses.2 refuses) accepts
    · rw [eq, other]
      exact ⟨rfl, _, gained_visited t a, gained_visited t b⟩
    · cases switch.symm.trans (alike.failPublish.trans opposite)
  · rcases publishFresh_cases t m b with ⟨refuses, _⟩ | ⟨_, opposite, _⟩ | ⟨_, _, other⟩
    · exact absurd (alike.refuses.2 refuses) accepts
    · cases switch.symm.trans (alike.failPublish.trans opposite)
    · rw [eq, other]
      exact ⟨rfl, _, gained_delivered t m a, gained_delivered t m b⟩

end Memory

end Broker

namespace Gateway

open Broker (Connector Memory Outgoing Topology topicMatches)

def Settings.under (s : Settings) (policy : Config.UnroutablePolicy) : Settings :=
  { s with policy := policy }

/-- A custom request that is in order, but whose routing key matches no binding. -/
structure Stray (t : Topology) (draws : Draws) (r : Http.Request) (key : String) : Prop where
  posted : r.method = "POST"
  path : Route.ofPath? r.route = some .custom
  ready : ∃ p, prepareCustom draws r = .ok p ∧ p.routingKey = key
  unbound : ∀ b ∈ t.bindings, topicMatches b.pattern key = false

variable (s : Settings)

theorem refusesKey_under_reject_iff (route : Route) (key : String) :
    refusesKey (s.under .reject) route key = true ↔
      route = .custom ∧ ∀ b ∈ s.topology.bindings, topicMatches b.pattern key = false := by
  have unbound : s.topology.isRoutable key = false ↔
      ∀ b ∈ s.topology.bindings, topicMatches b.pattern key = false := by
    rw [← Bool.not_eq_true, Topology.isRoutable_iff]
    simp
  cases route <;> simp [refusesKey, Settings.under, Route.callerKey, unbound]

theorem refusesKey_under_warn (route : Route) (key : String) :
    refusesKey (s.under .warn) route key = false := by
  simp [refusesKey, Settings.under]

section Request

variable {σ ρ φ : Type} (c : Connector σ ρ φ) (draws : Draws) (r : Http.Request)

/-- The answer of a route comes without the broker, or after its message was brought there. -/
theorem publishAnswer_broker_cases {route : Route} (posted : r.method = "POST")
    (path : Route.ofPath? r.route = some route) :
    (∀ broker, (publishAnswer s c draws route r broker).2 = broker) ∨
    ∃ m, Reaches s draws r route m ∧
      ∀ broker, (publishAnswer s c draws route r broker).2 = (c.publishFresh m broker).2 := by
  cases prepared : route.prepare s.defaults draws r with
  | error refusal => exact .inl fun broker => by rw [publishAnswer_of_error prepared]
  | ok p =>
    cases refused : refusesKey s route p.routingKey with
    | true => exact .inl fun broker => by rw [publishAnswer_of_refused prepared refused]
    | false =>
      exact .inr ⟨outgoing draws p, ⟨posted, path, p, prepared, rfl, refused⟩, fun broker => by
        rw [publishAnswer_of_allowed prepared refused]⟩

/-- A request stays away from every broker, or brings the same message to each. -/
theorem handle_broker_cases :
    (∀ broker, (handle s c draws r broker).2 = broker) ∨
    ∃ route m, Reaches s draws r route m ∧
      ∀ broker, (handle s c draws r broker).2 = (c.publishFresh m broker).2 := by
  by_cases routed : ∃ route, r.method = "POST" ∧ Route.ofPath? r.route = some route
  · obtain ⟨route, posted, path⟩ := routed
    simp only [handle_posted s posted path]
    rcases publishAnswer_broker_cases s c draws r posted path with away | ⟨m, reaches, brought⟩
    · exact .inl away
    · exact .inr ⟨route, m, reaches, brought⟩
  · obtain ⟨answer, answered⟩ := handle_unrouted s routed draws
    exact .inl fun broker => by rw [answered]

/-- Only a stray can tell the policy. -/
theorem handle_under_eq (ordinary : ∀ key, ¬Stray s.topology draws r key) (broker : σ) :
    handle (s.under .reject) c draws r broker = handle (s.under .warn) c draws r broker := by
  by_cases posted : r.method = "POST"
  · cases path : Route.ofPath? r.route with
    | none =>
      simp only [handle, path, posted]
      rfl
    | some route =>
      have prepares (policy) : route.prepare (s.under policy).defaults draws r =
          route.prepare s.defaults draws r := rfl
      simp only [handle_posted _ posted path, publishAnswer, prepares]
      cases prepared : route.prepare s.defaults draws r with
      | error refusal => rfl
      | ok p =>
        have allowed : refusesKey (s.under .reject) route p.routingKey = false := by
          rw [← Bool.not_eq_true, refusesKey_under_reject_iff]
          rintro ⟨rfl, unbound⟩
          exact ordinary p.routingKey ⟨posted, path, ⟨p, prepared, rfl⟩, unbound⟩
        simp only [dispatch, allowed, refusesKey_under_warn]
  · simp only [handle, posted, ↓reduceIte]
    rfl

theorem handle_of_stray {key : String} (stray : Stray s.topology draws r key) (broker : σ) :
    handle (s.under .reject) c draws r broker = ((Refusal.unroutableKey key).answer, broker) := by
  obtain ⟨p, ready, rfl⟩ := stray.ready
  have prepared : Route.custom.prepare (s.under .reject).defaults draws r = .ok p := ready
  have refused : refusesKey (s.under .reject) .custom p.routingKey = true :=
    (refusesKey_under_reject_iff s .custom p.routingKey).2 ⟨rfl, stray.unbound⟩
  rw [handle_posted _ stray.posted stray.path, publishAnswer_of_refused prepared refused]

end Request

section Serving

variable {t : Topology} {a b : Memory} (draws : Draws) (r : Http.Request)

theorem serve_alike (broker : Memory) : Memory.Alike t broker (serve s t draws r broker).2 := by
  unfold serve
  rcases handle_broker_cases s (Memory.connector t) draws r with away | ⟨_, m, _, brought⟩
  · rw [away]
    exact .refl broker
  · rw [brought]
    exact Memory.alike_publishFresh m broker

/-- Brokers that are alike are served alike. -/
theorem serve_of_alike (alike : Memory.Alike t a b) :
    (serve s t draws r a).1 = (serve s t draws r b).1 ∧
    ∃ gain, Memory.Gained gain a (serve s t draws r a).2 ∧
      Memory.Gained gain b (serve s t draws r b).2 := by
  unfold serve
  refine ⟨handle_of_sends_eq s (fun m => (alike.publishFresh m).1) draws r, ?_⟩
  rcases handle_broker_cases s (Memory.connector t) draws r with away | ⟨_, m, _, brought⟩
  · rw [away, away]
    exact ⟨_, Memory.gained_nothing, Memory.gained_nothing⟩
  · rw [brought, brought]
    exact (alike.publishFresh m).2

/-- Where keys are refused, the messages of the custom route find a queue. -/
theorem custom_messages_routed (path : Route.ofPath? r.route = some .custom) (broker : Memory) :
    ∃ messages, (serve (s.under .reject) s.topology draws r broker).2.published =
        broker.published ++ messages ∧
      ∀ message ∈ messages, message.routedTo ≠ [] := by
  unfold serve
  rcases handle_broker_cases (s.under .reject) (Memory.connector s.topology) draws r with
    away | ⟨route, m, reaches, brought⟩
  · rw [away]
    exact ⟨[], (List.append_nil _).symm, by simp⟩
  · rw [brought]
    have custom : route = .custom := Option.some.inj (reaches.path.symm.trans path)
    subst custom
    obtain ⟨p, _, rfl, allowed⟩ := reaches.ready
    have routable : s.topology.isRoutable (outgoing draws p).routingKey = true := by
      simpa [refusesKey, Settings.under, Route.callerKey, outgoing] using allowed
    have found := Memory.routedTo_ne_nil routable
    rcases Memory.publishFresh_published s.topology (outgoing draws p) broker with same | recorded
    · exact ⟨[], same.trans (List.append_nil _).symm, by simp⟩
    · exact ⟨[_], recorded, fun message last => List.mem_singleton.1 last ▸ found⟩

end Serving

/-- A step leaves brokers alike, whatever the gateways think of unroutable keys. -/
theorem step_alike (s₁ s₂ : Settings) {t : Topology} {a b : Memory} (alike : Memory.Alike t a b)
    (e : Event) : Memory.Alike t (step s₁ t a e) (step s₂ t b e) := by
  cases e with
  | request draws r =>
    -- The two gateways may treat the request differently; each leaves its own broker as it was.
    exact (serve_alike s₁ draws r a).symm.trans (alike.trans (serve_alike s₂ draws r b))
  | failOpen on => exact ⟨rfl, alike.failPublish, alike.conflicts⟩
  | failPublish on => exact ⟨alike.failOpen, rfl, alike.conflicts⟩

theorem run_alike (s₁ s₂ : Settings) {t : Topology} (events : List Event) {a b : Memory}
    (alike : Memory.Alike t a b) : Memory.Alike t (run s₁ t a events) (run s₂ t b events) := by
  induction events generalizing a b with
  | nil => exact alike
  | cons e events ih => exact ih (step_alike s₁ s₂ alike e)

/-- Two gateways, one that lets unroutable keys through and one that refuses them, after the same
events. Of the one that refuses them, every custom message finds a queue, and a stray is answered
with its key and without a session. Any other request has the same answer from both, and both brokers
gain the same messages and the same number of sessions by it. -/
theorem policies_differ_on_strays (start : Memory) (past : List Event) (draws : Draws)
    (r : Http.Request) :
    let lenient := run (s.under .warn) s.topology start past
    let strict := run (s.under .reject) s.topology start past
    let sent := serve (s.under .warn) s.topology draws r lenient
    let kept := serve (s.under .reject) s.topology draws r strict
    (Route.ofPath? r.route = some .custom → ∃ messages,
      kept.2.published = strict.published ++ messages ∧
      ∀ message ∈ messages, message.routedTo ≠ []) ∧
    (∀ key, Stray s.topology draws r key →
      kept = (errorAnswer 400 ("routing key '" ++ key ++ "' matches no queue binding"), strict)) ∧
    ((∀ key, ¬Stray s.topology draws r key) →
      sent.1 = kept.1 ∧
      ∃ gain, Memory.Gained gain lenient sent.2 ∧ Memory.Gained gain strict kept.2) := by
  intro lenient strict sent kept
  refine ⟨fun path => custom_messages_routed s draws r path strict,
    fun key stray => handle_of_stray s _ draws r stray strict, fun ordinary => ?_⟩
  have alike : Memory.Alike s.topology lenient strict := run_alike _ _ past (.refl start)
  have same : kept = serve (s.under .warn) s.topology draws r strict :=
    handle_under_eq s _ draws r ordinary strict
  rw [same]
  exact serve_of_alike (s.under .warn) draws r alike

/-- After a stray the one broker has had a session and the other has not. A second stray is refused
again, and a file, whose key matches no binding of the standard topology either, is sent by both. -/
theorem second_stray_refused :
    let stray : Http.Request := ⟨"POST", "/api/message/custom", [],
      "\x7b\"routing_key\":\"x\",\"payload\":[1]\x7d".toUTF8⟩
    let file : Http.Request := ⟨"POST", "/api/file/upload",
      [("content-type", Text.Utf8.encode "application/json")],
      "\x7b\"file_name\":\"a.txt\",\"file_content\":\"YQ==\"\x7d".toUTF8⟩
    let lenient := run (strictSettings.under .warn) .standard .fresh [.request zeroDraws stray]
    let strict := run (strictSettings.under .reject) .standard .fresh [.request zeroDraws stray]
    let answered := serve (strictSettings.under .reject) .standard zeroDraws stray strict
    let sent := serve (strictSettings.under .warn) .standard zeroDraws file lenient
    let kept := serve (strictSettings.under .reject) .standard zeroDraws file strict
    lenient.opened = 1 ∧ strict.opened = 0 ∧
    answered = (errorAnswer 400 "routing key 'x' matches no queue binding", strict) ∧
    (∃ messages, answered.2.published = strict.published ++ messages ∧
      ∀ message ∈ messages, message.routedTo ≠ []) ∧
    Topology.standard.isRoutable "file.upload" = false ∧
    sent.1 = kept.1 ∧ sent.1.status = 200 ∧
    ∃ gain, Memory.Gained gain lenient sent.2 ∧ Memory.Gained gain strict kept.2 := by
  intro stray file lenient strict answered sent kept
  have key : (prepareCustom zeroDraws stray).toOption.map (·.routingKey) = some "x" := by
    decide +kernel
  have custom : Route.ofPath? stray.route = some .custom := by decide +kernel
  have unbound : Stray .standard zeroDraws stray "x" := by
    cases ready : prepareCustom zeroDraws stray with
    | error refusal =>
      rw [ready] at key
      cases key
    | ok p =>
      rw [ready] at key
      exact ⟨rfl, custom, ⟨p, ready, Option.some.inj key⟩, by decide +kernel⟩
  have ordinary (key : String) : ¬Stray .standard zeroDraws file key := by
    intro other
    have path : Route.ofPath? file.route = some .fileUpload := by decide +kernel
    cases path.symm.trans other.path
  have strays := policies_differ_on_strays strictSettings .fresh [.request zeroDraws stray] zeroDraws
  obtain ⟨same, gained⟩ := (strays file).2.2 ordinary
  refine ⟨by decide +kernel, by decide +kernel, (strays stray).2.1 "x" unbound,
    (strays stray).1 custom, by decide +kernel, same, by decide +kernel, gained⟩

end Gateway

end TopicGateway
