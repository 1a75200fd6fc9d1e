import TopicGateway.Proofs.Gateway.Accounting
import TopicGateway.Proofs.Gateway.Concealment
import TopicGateway.Proofs.Json.RoundTrip

/-! What an error's answer says. Its body is written like any other value, so reading it gives one
member back with the text that went in, whatever the text holds; which status goes with it depends on
the kind of the error alone. -/
namespace TopicGateway.Gateway

open Broker (Connector Memory)

/-- The answer is JSON that says this text under `error`, and nothing else. -/
structure Explains (answer : Http.Answer) (text : String) : Prop where
  typed : answer.contentType = some "application/json"
  decoded : Json.read answer.body = .ok (.object [("error", .string text)])

theorem errorAnswer_explains (status : Nat) (text : String) : Explains (errorAnswer status text) text where
  typed := rfl
  decoded := Json.read_bytes (by simp [Json.depth, Json.depthMembers, Json.deepest])

namespace Refusal

def IsServerFault (r : Refusal) : Prop :=
  (∃ what, r = .publishFailed what) ∨ ∃ detail, r = .internal detail

theorem status_cases (r : Refusal) :
    r.IsServerFault ∧ r.status = 500 ∨ ¬r.IsServerFault ∧ r.status = 400 := by
  cases r with
  | publishFailed what => exact .inl ⟨.inl ⟨what, rfl⟩, rfl⟩
  | internal detail => exact .inl ⟨.inr ⟨detail, rfl⟩, rfl⟩
  | _ => exact .inr ⟨by simp [IsServerFault], rfl⟩

end Refusal

/-- What the gateway answers with status 400 or 500 is the answer to a refusal. -/
theorem refusal_of_handle {σ ρ φ : Type} (s : Settings) (c : Connector σ ρ φ) (draws : Draws)
    (r : Http.Request) (broker : σ) {answer : Http.Answer}
    (answered : (handle s c draws r broker).1 = answer)
    (refused : answer.status = 400 ∨ answer.status = 500) :
    ∃ refusal : Refusal, answer = refusal.answer := by
  by_cases routed : ∃ route, r.method = "POST" ∧ Route.ofPath? r.route = some route
  · obtain ⟨route, posted, path⟩ := routed
    rw [handle_posted s posted path, publishAnswer_eq] at answered
    split at answered
    · next refusal prepared => exact ⟨refusal, answered.symm⟩
    split at answered
    · exact ⟨_, answered.symm⟩
    split at answered
    · subst answered
      rcases refused with status | status <;> cases status
    · exact ⟨.publishFailed route.what, answered.symm⟩
  · -- Health has status 200, and what no route is there for 404 or 405.
    exfalso
    subst answered
    revert refused
    simp only [handle]
    repeat' split
    all_goals simp_all [healthAnswer, jsonAnswer, bareAnswer]

/-- An error is answered with a JSON object that has the one member `error`, and decoding it gives the
text of the error back, whatever characters stand in it; so does the text that a failing handler leaves.
The status is 500 if the message could not be sent, for internal errors and for handlers that fail, and
400 otherwise. No request gets another answer with one of these. -/
theorem errors_say_their_text :
    (∀ r : Refusal, Explains r.answer r.message ∧
      (r.answer.status = 500 ↔ r.IsServerFault) ∧ (r.answer.status = 400 ↔ ¬r.IsServerFault)) ∧
    (∀ text, Explains (contain (.error (.text text))) text ∧
      (contain (.error (.text text))).status = 500) ∧
    (Explains (contain (.error .other)) "unknown panic" ∧ (contain (.error .other)).status = 500) ∧
    ∀ {σ ρ φ : Type} (s : Settings) (c : Connector σ ρ φ) (draws : Draws) (r : Http.Request)
      (broker : σ), ((handle s c draws r broker).1.status = 400 ∨
        (handle s c draws r broker).1.status = 500) →
      ∃ refusal : Refusal, (handle s c draws r broker).1 = refusal.answer := by
  refine ⟨fun r => ⟨errorAnswer_explains _ _, ?_⟩, fun text => ⟨errorAnswer_explains _ _, rfl⟩,
    ⟨errorAnswer_explains _ _, rfl⟩, fun s c draws r broker => refusal_of_handle s c draws r broker rfl⟩
  change (r.status = 500 ↔ _) ∧ (r.status = 400 ↔ _)
  rcases r.status_cases with ⟨fault, status⟩ | ⟨fault, status⟩
  · simp [fault, status]
  · simp [fault, status]

/-- A key that would close the member and open another one stays a text. -/
theorem quoting_key_explained :
    let stray : Http.Request := ⟨"POST", "/api/message/custom", [],
      "\x7b\"routing_key\":\"x\\\",\\\"admin\\\":\\\"\",\"payload\":1\x7d".toUTF8⟩
    let answer := (handle strictSettings (Memory.connector .standard) zeroDraws stray .fresh).1
    answer.status = 400 ∧
    answer.body = Text.Utf8.encode
      "\x7b\"error\":\"routing key 'x\\\",\\\"admin\\\":\\\"' matches no queue binding\"\x7d" ∧
    Explains answer "routing key 'x\",\"admin\":\"' matches no queue binding" ∧
    ∃ refusal : Refusal, answer = refusal.answer := by
  intro stray answer
  have same : answer = (Refusal.unroutableKey "x\",\"admin\":\"").answer := by decide +kernel
  have status : answer.status = 400 := congrArg Http.Answer.status same
  obtain ⟨refusals, _, _, requests⟩ := errors_say_their_text
  refine ⟨status, by decide +kernel, ?_, requests _ _ _ _ _ (.inl status)⟩
  rw [same]
  exact (refusals (.unroutableKey "x\",\"admin\":\"")).1

end TopicGateway.Gateway
