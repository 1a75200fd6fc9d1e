import TopicGateway.Amqp.Session
import TopicGateway.Proofs.Gateway.Accounting

/-! What a client learns of the broker. Of everything that a connector does for a request, its faults
included, an answer shows one bit: whether the message went out. -/
namespace TopicGateway

namespace Broker.Connector

variable {σ ρ φ σ₁ ρ₁ φ₁ σ₂ ρ₂ φ₂ : Type}

/-- The message goes out on a session of its own. -/
def sends (c : Connector σ ρ φ) (m : Outgoing) (broker : σ) : Bool :=
  match (c.publishFresh m broker).1 with
  | .ok published => published
  | .error _ => false

/-- There is no session, or the publishing fails on it. -/
def Fails (c : Connector σ ρ φ) (m : Outgoing) (broker : σ) : Prop :=
  (∃ fault, (c.openSession broker).1 = .error fault) ∨
  ∃ session opened fault, c.openSession broker = (.ok session, opened) ∧
    (c.publish session m opened).1 = .error fault

/-- Both connectors open a session and both publish the message on it, or neither does. -/
def Alike (c₁ : Connector σ₁ ρ₁ φ₁) (c₂ : Connector σ₂ ρ₂ φ₂) (m : Outgoing) (b₁ : σ₁) (b₂ : σ₂) :
    Prop :=
  match c₁.openSession b₁, c₂.openSession b₂ with
  | (.ok session₁, b₁), (.ok session₂, b₂) =>
    (c₁.publish session₁ m b₁).1.isOk = (c₂.publish session₂ m b₂).1.isOk
  | (.error _, _), (.error _, _) => True
  | _, _ => False

theorem sends_eq_true_iff {c : Connector σ ρ φ} {m : Outgoing} {broker : σ} :
    c.sends m broker = true ↔ (c.publishFresh m broker).1 = .ok true := by
  rw [sends]
  cases (c.publishFresh m broker).1 with
  | error fault => simp
  | ok published => simp

theorem sends_of_error {c : Connector σ ρ φ} {broker after : σ} {fault : φ}
    (refused : c.openSession broker = (.error fault, after)) (m : Outgoing) :
    c.sends m broker = false := by
  rw [sends, publishFresh_of_refused refused]

/-- Once a session is open, its publishing decides, however the session ends. -/
theorem sends_of_ok {c : Connector σ ρ φ} {broker opened : σ} {session : ρ}
    (accepted : c.openSession broker = (.ok session, opened)) (m : Outgoing) :
    c.sends m broker = (c.publish session m opened).1.isOk := by
  rw [sends, publishFresh_of_opened accepted rfl rfl]

theorem Fails.not_sends {c : Connector σ ρ φ} {m : Outgoing} {broker : σ}
    (fails : c.Fails m broker) : c.sends m broker = false := by
  rcases fails with ⟨fault, refused⟩ | ⟨session, opened, fault, accepted, refused⟩
  · exact sends_of_error (Prod.ext refused rfl) m
  · rw [sends_of_ok accepted, refused]
    rfl

theorem Alike.sends_eq {c₁ : Connector σ₁ ρ₁ φ₁} {c₂ : Connector σ₂ ρ₂ φ₂} {m : Outgoing} {b₁ : σ₁}
    {b₂ : σ₂} (alike : c₁.Alike c₂ m b₁ b₂) : c₁.sends m b₁ = c₂.sends m b₂ := by
  unfold Alike at alike
  rcases first : c₁.openSession b₁ with ⟨_ | session₁, opened₁⟩ <;>
    rcases second : c₂.openSession b₂ with ⟨_ | session₂, opened₂⟩ <;>
    simp only [first, second] at alike
  · rw [sends_of_error first, sends_of_error second]
  · rw [sends_of_ok first, sends_of_ok second, alike]

/-- What closing answers is not kept. -/
theorem publishFresh_eq {c₁ c₂ : Connector σ ρ φ}
    (opening : c₁.openSession = c₂.openSession) (publishing : c₁.publish = c₂.publish)
    (left : ∀ session broker, (c₁.close session broker).2 = (c₂.close session broker).2) :
    c₁.publishFresh = c₂.publishFresh := by
  funext m broker
  simp only [publishFresh, tryPublish, opening, publishing, left]

end Broker.Connector

namespace Gateway

open Broker (Connector Memory Outgoing)

variable {σ ρ φ σ₁ ρ₁ φ₁ σ₂ ρ₂ φ₂ : Type} (s : Settings)

/-- A request gets as far as the broker, with this message. -/
structure Reaches (draws : Draws) (r : Http.Request) (route : Route) (m : Outgoing) : Prop where
  posted : r.method = "POST"
  path : Route.ofPath? r.route = some route
  ready : ∃ p, route.prepare s.defaults draws r = .ok p ∧ m = outgoing draws p ∧
    refusesKey s route p.routingKey = false

def Route.failure (route : Route) : Http.Answer :=
  errorAnswer 500 ("failed to send " ++ route.what)

section Publishing

variable {s} {c : Connector σ ρ φ} {draws : Draws} {route : Route} {r : Http.Request} {p : Prepared}

theorem publishAnswer_of_error {refusal : Refusal}
    (prepared : route.prepare s.defaults draws r = .error refusal) (broker : σ) :
    publishAnswer s c draws route r broker = (refusal.answer, broker) := by
  simp only [publishAnswer, prepared]

theorem publishAnswer_of_refused (prepared : route.prepare s.defaults draws r = .ok p)
    (refused : refusesKey s route p.routingKey = true) (broker : σ) :
    publishAnswer s c draws route r broker =
      ((Refusal.unroutableKey p.routingKey).answer, broker) := by
  simp only [publishAnswer, prepared, dispatch, refused, ↓reduceIte]

/-- A fault at opening and a message that is not published end in the same refusal. -/
theorem publishAnswer_of_allowed (prepared : route.prepare s.defaults draws r = .ok p)
    (allowed : refusesKey s route p.routingKey = false) (broker : σ) :
    publishAnswer s c draws route r broker =
      (if c.sends (outgoing draws p) broker then jsonAnswer 200 p.answer else route.failure,
        (c.publishFresh (outgoing draws p) broker).2) := by
  simp only [publishAnswer, prepared, dispatch, allowed, Bool.false_eq_true, ↓reduceIte]
  rcases sent : c.publishFresh (outgoing draws p) broker with ⟨_ | published, after⟩
  · have silent : c.sends (outgoing draws p) broker = false := by
      simp only [Connector.sends, sent]
    simp only [silent, Bool.false_eq_true, ↓reduceIte]
    rfl
  · have told : c.sends (outgoing draws p) broker = published := by
      simp only [Connector.sends, sent]
    rw [told]
    cases published <;> rfl

end Publishing

/-- Of what a connector does, an answer tells only whether the message went out. -/
theorem publishAnswer_eq (c : Connector σ ρ φ) (draws : Draws) (route : Route) (r : Http.Request)
    (broker : σ) :
    (publishAnswer s c draws route r broker).1 =
      match route.prepare s.defaults draws r with
      | .error refusal => refusal.answer
      | .ok p =>
        if refusesKey s route p.routingKey then (Refusal.unroutableKey p.routingKey).answer
        else if c.sends (outgoing draws p) broker then jsonAnswer 200 p.answer
        else route.failure := by
  cases prepared : route.prepare s.defaults draws r with
  | error refusal => rw [publishAnswer_of_error prepared]
  | ok p =>
    cases refused : refusesKey s route p.routingKey with
    | true => simp only [publishAnswer_of_refused prepared refused, refused, ↓reduceIte]
    | false =>
      simp only [publishAnswer_of_allowed prepared refused, refused, Bool.false_eq_true, ↓reduceIte]

theorem route_ne_health {r : Http.Request} {route : Route}
    (path : Route.ofPath? r.route = some route) : r.route ≠ "/health" := by
  intro health
  have unknown : Route.ofPath? "/health" = none := by decide
  rw [health, unknown] at path
  cases path

theorem handle_posted {r : Http.Request} {route : Route} (posted : r.method = "POST")
    (path : Route.ofPath? r.route = some route) (c : Connector σ ρ φ) (draws : Draws) (broker : σ) :
    handle s c draws r broker = publishAnswer s c draws route r broker := by
  simp only [handle, route_ne_health path, path, posted, ↓reduceIte]

/-- A request that no route publishes for has its answer from no broker. -/
theorem handle_unrouted {r : Http.Request}
    (unrouted : ¬∃ route, r.method = "POST" ∧ Route.ofPath? r.route = some route) (draws : Draws) :
    ∃ answer, ∀ {σ ρ φ : Type} (c : Connector σ ρ φ) (broker : σ),
      handle s c draws r broker = (answer, broker) := by
  by_cases health : r.route = "/health"
  · by_cases get : r.method = "GET"
    · exact ⟨_, fun c broker => by simp only [handle, health, get, ↓reduceIte]; rfl⟩
    by_cases head : r.method = "HEAD"
    · exact ⟨_, fun c broker => by simp only [handle, health, head, ↓reduceIte]; rfl⟩
    · exact ⟨_, fun c broker => by simp only [handle, health, get, head, ↓reduceIte]; rfl⟩
  · cases path : Route.ofPath? r.route with
    | none => exact ⟨_, fun c broker => by simp only [handle, health, path, ↓reduceIte]; rfl⟩
    | some route =>
      have other : r.method ≠ "POST" := fun posted => unrouted ⟨route, posted, path⟩
      exact ⟨_, fun c broker => by simp only [handle, health, path, other, ↓reduceIte]; rfl⟩

theorem handle_of_fails {draws : Draws} {r : Http.Request} {route : Route} {m : Outgoing}
    (reaches : Reaches s draws r route m) {c : Connector σ ρ φ} {broker : σ}
    (fails : c.Fails m broker) : (handle s c draws r broker).1 = route.failure := by
  obtain ⟨p, ready, rfl, allowed⟩ := reaches.ready
  rw [handle_posted s reaches.posted reaches.path, publishAnswer_eq, ready]
  simp [allowed, fails.not_sends]

/-- Where both connectors send the same messages, clients cannot tell them apart. -/
theorem handle_of_sends_eq {c₁ : Connector σ₁ ρ₁ φ₁} {c₂ : Connector σ₂ ρ₂ φ₂} {b₁ : σ₁} {b₂ : σ₂}
    (same : ∀ m, c₁.sends m b₁ = c₂.sends m b₂) (draws : Draws) (r : Http.Request) :
    (handle s c₁ draws r b₁).1 = (handle s c₂ draws r b₂).1 := by
  by_cases routed : ∃ route, r.method = "POST" ∧ Route.ofPath? r.route = some route
  · obtain ⟨route, posted, path⟩ := routed
    rw [handle_posted s posted path, handle_posted s posted path, publishAnswer_eq,
      publishAnswer_eq]
    simp only [same]
  · obtain ⟨answer, answered⟩ := handle_unrouted s routed draws
    rw [answered, answered]

theorem handle_of_publishFresh_eq {c₁ c₂ : Connector σ ρ φ}
    (same : c₁.publishFresh = c₂.publishFresh) (draws : Draws) (r : Http.Request) (broker : σ) :
    handle s c₁ draws r broker = handle s c₂ draws r broker := by
  simp only [handle, publishAnswer, dispatch, same]

/-- A client learns nothing of the broker but whether its message went out. Whatever fails at the
opening or the publishing, with whatever fault, a request that gets so far is answered by its route
alone. Connectors that open and publish alike are answered for alike, however they close; and where
closing leaves the same broker behind, its answer changes nothing at all. -/
theorem broker_concealed (c₁ : Connector σ₁ ρ₁ φ₁) (c₂ : Connector σ₂ ρ₂ φ₂) (b₁ : σ₁) (b₂ : σ₂)
    (r : Http.Request) :
    (∀ route d₁ d₂ m₁ m₂, Reaches s d₁ r route m₁ → Reaches s d₂ r route m₂ →
      c₁.Fails m₁ b₁ → c₂.Fails m₂ b₂ →
      (handle s c₁ d₁ r b₁).1 = errorAnswer 500 ("failed to send " ++ route.what) ∧
      (handle s c₂ d₂ r b₂).1 = errorAnswer 500 ("failed to send " ++ route.what)) ∧
    ((∀ m, c₁.Alike c₂ m b₁ b₂) → ∀ draws,
      (handle s c₁ draws r b₁).1 = (handle s c₂ draws r b₂).1) ∧
    ∀ closing : ρ₁ → σ₁ → Except φ₁ Unit × σ₁,
      (∀ session broker, (closing session broker).2 = (c₁.close session broker).2) →
      ∀ draws, handle s { c₁ with close := closing } draws r b₁ = handle s c₁ draws r b₁ := by
  refine ⟨?_, ?_, ?_⟩
  · intro route d₁ d₂ m₁ m₂ first second fails₁ fails₂
    exact ⟨handle_of_fails s first fails₁, handle_of_fails s second fails₂⟩
  · intro alike draws
    exact handle_of_sends_eq s (fun m => (alike m).sends_eq) draws r
  · intro closing left draws
    have same : { c₁ with close := closing }.publishFresh = c₁.publishFresh :=
      Connector.publishFresh_eq rfl rfl left
    exact handle_of_publishFresh_eq s same draws r b₁

def dataMessage : Http.Request where
  method := "POST"
  path := "/api/message/custom"
  headers := []
  body := "\x7b\"routing_key\":\"data.x\",\"payload\":1\x7d".toUTF8

/-- A broker in memory that refuses sessions and a broker that cannot be reached, with an account of
its own, give the same answer, also where closing a session fails. -/
theorem unreachable_broker_concealed :
    let s : Settings := { strictSettings with policy := .warn }
    let refusing : Memory := { Memory.fresh with failOpen := true }
    let inMemory := Memory.connector .standard
    let unreachable := Amqp.connector (.unreachable "Network is unreachable (os error 101)")
      { Broker.Access.standard with username := "svc", password := "secret" } .standard
    let closing (_ : Broker.Topology) (broker : Memory) : Except Broker.Fault Unit × Memory :=
      (.error (.close (.io "gone")), { broker with closed := broker.closed + 1 })
    (∃ m, Reaches s zeroDraws dataMessage .custom m ∧ inMemory.Fails m refusing ∧
      unreachable.Fails m [] ∧
      (handle s inMemory zeroDraws dataMessage refusing).1 =
        errorAnswer 500 "failed to send custom message" ∧
      (handle s unreachable zeroDraws dataMessage []).1 =
        errorAnswer 500 "failed to send custom message") ∧
    (∀ m, inMemory.Alike unreachable m refusing []) ∧
    (∀ draws, (handle s inMemory draws dataMessage refusing).1 =
      (handle s unreachable draws dataMessage []).1) ∧
    ∀ draws, handle s { inMemory with close := closing } draws dataMessage refusing =
      handle s inMemory draws dataMessage refusing := by
  intro s refusing inMemory unreachable closing
  obtain ⟨failing, same, closed⟩ :=
    broker_concealed s inMemory unreachable refusing [] dataMessage
  have alike : ∀ m, inMemory.Alike unreachable m refusing [] := fun m => trivial
  refine ⟨?_, alike, same alike, closed closing fun _ _ => rfl⟩
  have prepared : (Route.custom.prepare .builtIn zeroDraws dataMessage).isOk = true := by
    decide +kernel
  cases ready : Route.custom.prepare .builtIn zeroDraws dataMessage with
  | error refusal =>
    rw [ready] at prepared
    cases prepared
  | ok p =>
    have reaches : Reaches s zeroDraws dataMessage .custom (outgoing zeroDraws p) :=
      ⟨rfl, by decide +kernel, p, ready, rfl, rfl⟩
    have refused : inMemory.Fails (outgoing zeroDraws p) refusing := .inl ⟨_, rfl⟩
    have away : unreachable.Fails (outgoing zeroDraws p) [] := .inl ⟨_, rfl⟩
    exact ⟨_, reaches, refused, away, failing .custom _ _ _ _ reaches reaches refused away⟩

end Gateway

end TopicGateway
