import TopicGateway.Proofs.Gateway.Concealment

/-! How a request fares that is in order. What is accepted was sent: over any connector, the message
that was made of the request went out on a session of its own. Over a broker in memory, what the broker
is like before the request tells whether it does. -/
namespace TopicGateway.Gateway

open Broker (Connector Memory Topology)

section Requests

variable {s : Settings} {draws : Draws} {r : Http.Request} {route : Route} {p : Prepared}

/-- An accepted request made a message, which went out. -/
theorem accepted_sent {σ ρ φ : Type} {c : Connector σ ρ φ} {broker : σ}
    (accepted : Accepted r (handle s c draws r broker).1) :
    ∃ route p, Route.ofPath? r.route = some route ∧ route.prepare s.defaults draws r = .ok p ∧
      (handle s c draws r broker).1 = jsonAnswer 200 p.answer ∧
      c.publishFresh (outgoing draws p) broker = (.ok true, (handle s c draws r broker).2) := by
  obtain ⟨posted, ok⟩ := accepted
  cases path : Route.ofPath? r.route with
  | none =>
    simp only [handle, path, posted] at ok
    split at ok <;> cases ok
  | some route =>
    rw [handle_posted s posted path] at ok ⊢
    cases prepared : route.prepare s.defaults draws r with
    | error refusal =>
      have fault : refusal.status = 400 := prepare_faults s.defaults draws r route refusal prepared
      rw [publishAnswer_of_error prepared] at ok
      have status : refusal.status = 200 := ok
      omega
    | ok p =>
      cases refused : refusesKey s route p.routingKey with
      | true =>
        rw [publishAnswer_of_refused prepared refused] at ok
        cases ok
      | false =>
        rw [publishAnswer_of_allowed prepared refused] at ok ⊢
        cases sent : c.sends (outgoing draws p) broker with
        | false =>
          rw [sent] at ok
          cases ok
        | true =>
          have went := Connector.sends_eq_true_iff.1 sent
          exact ⟨route, p, rfl, prepared, rfl, Prod.ext went rfl⟩

/-- Of what is sent to a route that publishes, nothing but a `POST` is answered with status 200. -/
theorem accepted_of_ok {σ ρ φ : Type} {c : Connector σ ρ φ} {broker : σ}
    (path : Route.ofPath? r.route = some route) (ok : (handle s c draws r broker).1.status = 200) :
    Accepted r (handle s c draws r broker).1 := by
  refine ⟨Classical.byContradiction fun other => ?_, ok⟩
  simp only [handle, route_ne_health path, path, other, ↓reduceIte] at ok
  cases ok

end Requests

section InMemory

variable {s : Settings} {draws : Draws} {r : Http.Request} {route : Route} {p : Prepared}

/-- What becomes of a message does not depend on the message, but on the broker. -/
theorem serve_cases_of_ready (topology : Topology) (broker : Memory) (posted : r.method = "POST")
    (path : Route.ofPath? r.route = some route)
    (ready : route.prepare s.defaults draws r = .ok p)
    (allowed : refusesKey s route p.routingKey = false) :
    ((broker.Refuses topology ∨ broker.failPublish = true) ∧
      (serve s topology draws r broker).1 = route.failure ∧
      (serve s topology draws r broker).2.published = broker.published) ∨
    (¬broker.Refuses topology ∧ broker.failPublish = false ∧
      serve s topology draws r broker =
        (jsonAnswer 200 p.answer, broker.delivered topology (outgoing draws p))) := by
  rw [serve, handle_posted s posted path, publishAnswer_of_allowed ready allowed]
  rcases Memory.publishFresh_cases topology (outgoing draws p) broker with
    ⟨refuses, fault, eq⟩ | ⟨accepts, switch, eq⟩ | ⟨accepts, switch, eq⟩
  · exact .inl ⟨.inl refuses, by simp [Connector.sends, eq], by rw [eq]⟩
  · exact .inl ⟨.inr switch, by simp [Connector.sends, eq], by rw [eq]; rfl⟩
  · exact .inr ⟨accepts, switch, by simp [Connector.sends, eq]⟩

/-- A broker in memory records what was made of a request just where the request is accepted. -/
theorem records_of_ready (topology : Topology) (broker : Memory) (posted : r.method = "POST")
    (path : Route.ofPath? r.route = some route) (ready : route.prepare s.defaults draws r = .ok p) :
    Memory.Records topology (outgoing draws p) ((serve s topology draws r broker).1.status = 200)
      broker (serve s topology draws r broker).2 := by
  cases refused : refusesKey s route p.routingKey with
  | true =>
    rw [serve, handle_posted s posted path, publishAnswer_of_refused ready refused]
    exact ⟨nofun, fun _ => rfl⟩
  | false =>
    rcases serve_cases_of_ready topology broker posted path ready refused with
      ⟨_, answered, kept⟩ | ⟨_, _, served⟩
    · rw [answered]
      exact ⟨nofun, fun _ => kept⟩
    · rw [served]
      exact ⟨fun _ => ⟨_, rfl, Memory.isRecord_record topology _⟩, fun lost => absurd rfl lost⟩

end InMemory

end TopicGateway.Gateway
