import Mathlib.Data.List.Find
import TopicGateway.Proofs.Gateway.Concealment
import TopicGateway.Proofs.Gateway.Decoded

/-! What a request can say. A route looks up the fields that it documents, by the value that counts for
each, and nothing else: two bodies that agree on them are the same to it, whatever else they hold and
however they are written. -/
namespace TopicGateway

/-- Both objects have the same under each of these names. -/
def Json.Object.AgreeOn (names : List String) (a b : Json.Object) : Prop :=
  ∀ name ∈ names, a.get? name = b.get? name

namespace Gateway

open Message
open Broker (Connector Memory Published Topology)

def Route.fields : Route → List String
  | .backtest => ["strategy_id", "start_date", "end_date", "initial_capital", "instruments"]
  | .strategyUpload => ["code", "strategy_id", "strategy_name", "version"]
  | .dataRequest => ["instrument_id", "start_date", "end_date", "frequency"]
  | .fileUpload => ["file_name", "file_content", "file_type", "related_id"]
  | .custom => ["routing_key", "payload", "message_type", "correlation_id"]

/-- The routes that take forms as well, and tell by the content type. -/
def Route.takesForms : Route → Bool
  | .strategyUpload | .fileUpload => true
  | .backtest | .dataRequest | .custom => false

structure Hands (route : Route) (r : Http.Request) (members : List (String × Json)) : Prop where
  posted : r.method = "POST"
  path : Route.ofPath? r.route = some route
  kind : route.takesForms = true → r.bodyKind = .json
  size : r.body.size ≤ bodyLimit
  object : Json.read r.body.data.toList = .ok (.object members)

/-- What no request can set: the identity of its message and the settings of the gateway. -/
structure Kept (defaults : Defaults) (draws : Draws) (e : Envelope) : Prop where
  messageId : e.messageId = draws.stamp.messageId
  correlationId : e.correlationId = draws.stamp.correlationId.text
  timestamp : e.timestamp = draws.stamp.timestamp
  payload : match e.payload with
    | .backtest p => p.execution = defaults.execution ∧ p.risk = defaults.risk
    | .strategyUpload p => p.parameters = .empty ∧ p.tags = defaults.strategy.tags
    | .dataRequest _ => True
    | .fileUpload p => p.uploadTime = draws.uploadTime ∧
      ∃ content, Base64.decodeText p.fileContent = .ok content ∧
        p.fileSize = UInt64.ofNat content.length
    | .custom _ => False

section Fields

variable {names : List String} {a b : Json.Object} {name : String}

theorem requireFields_congr (agree : a.AgreeOn names b) {required : List String}
    (documented : required ⊆ names) : requireFields a required = requireFields b required := by
  have first : (required.find? fun name => !a.contains name) =
      required.find? fun name => !b.contains name := by
    apply List.find?_congr
    intro name member
    rw [Json.Object.contains, Json.Object.contains, agree name (documented member)]
  rw [requireFields, requireFields, first]

theorem stringField_congr (agree : a.AgreeOn names b) (documented : name ∈ names) :
    stringField a name = stringField b name := by
  rw [stringField, stringField, agree name documented]

theorem optionalString_congr (agree : a.AgreeOn names b) (documented : name ∈ names) :
    optionalString a name = optionalString b name := by
  rw [optionalString, optionalString, agree name documented]

theorem numberField_congr (agree : a.AgreeOn names b) (documented : name ∈ names) :
    numberField a name = numberField b name := by
  rw [numberField, numberField, agree name documented]

theorem stringsField_congr (agree : a.AgreeOn names b) (documented : name ∈ names) :
    stringsField a name = stringsField b name := by
  rw [stringsField, stringsField, agree name documented]

end Fields

section Routes

variable (defaults : Defaults) (draws : Draws) {r₁ r₂ : Http.Request} {a b : Json.Object}

theorem prepareBacktest_congr (first : readObject r₁ = .ok a) (second : readObject r₂ = .ok b)
    (agree : a.AgreeOn Route.backtest.fields b) :
    prepareBacktest defaults draws r₁ = prepareBacktest defaults draws r₂ := by
  simp (disch := decide) only [prepareBacktest, first, second, bind, Except.bind,
    requireFields_congr agree, stringField_congr agree, numberField_congr agree,
    stringsField_congr agree]

theorem strategyFromObject_congr (agree : a.AgreeOn Route.strategyUpload.fields b) :
    strategyFromObject draws a = strategyFromObject draws b := by
  simp (disch := decide) only [strategyFromObject, requireFields_congr agree,
    stringField_congr agree, optionalString_congr agree]

theorem prepareData_congr (first : readObject r₁ = .ok a) (second : readObject r₂ = .ok b)
    (agree : a.AgreeOn Route.dataRequest.fields b) :
    prepareData defaults draws r₁ = prepareData defaults draws r₂ := by
  simp (disch := decide) only [prepareData, first, second, bind, Except.bind,
    requireFields_congr agree, stringField_congr agree, optionalString_congr agree]

theorem fileFromObject_congr (agree : a.AgreeOn Route.fileUpload.fields b) :
    fileFromObject a = fileFromObject b := by
  simp (disch := decide) only [fileFromObject, requireFields_congr agree, stringField_congr agree,
    optionalString_congr agree]

theorem prepareCustom_congr (first : readObject r₁ = .ok a) (second : readObject r₂ = .ok b)
    (agree : a.AgreeOn Route.custom.fields b) : prepareCustom draws r₁ = prepareCustom draws r₂ := by
  have payload : a.get? "payload" = b.get? "payload" := agree "payload" (by decide)
  simp (disch := decide) only [prepareCustom, first, second, bind, Except.bind, payload,
    requireFields_congr agree, stringField_congr agree, optionalString_congr agree]

/-- A route prepares requests alike whose objects agree on its fields. -/
theorem prepare_congr {route : Route} (first : readObject r₁ = .ok a) (second : readObject r₂ = .ok b)
    (kind₁ : route.takesForms = true → r₁.bodyKind = .json)
    (kind₂ : route.takesForms = true → r₂.bodyKind = .json) (agree : a.AgreeOn route.fields b) :
    route.prepare defaults draws r₁ = route.prepare defaults draws r₂ := by
  cases route with
  | backtest => exact prepareBacktest_congr defaults draws first second agree
  | strategyUpload =>
    simp only [Route.prepare, prepareStrategy, kind₁ rfl, kind₂ rfl, first, second, bind, Except.bind,
      strategyFromObject_congr draws agree]
  | dataRequest => exact prepareData_congr defaults draws first second agree
  | fileUpload =>
    simp only [Route.prepare, prepareFile, kind₁ rfl, kind₂ rfl, first, second, bind, Except.bind,
      fileFromObject_congr agree]
  | custom => exact prepareCustom_congr draws first second agree

end Routes

theorem Hands.readObject {route : Route} {r : Http.Request} {members : List (String × Json)}
    (hands : Hands route r members) : ∃ o, readObject r = .ok o ∧
      ∀ name, o.get? name = ((Json.object members).member? name).map Json.canonical := by
  have small : ¬bodyLimit < r.body.size := Nat.not_lt.2 hands.size
  obtain ⟨o, kept⟩ : ∃ o, (Json.object members).value.object? = some o := ⟨_, rfl⟩
  refine ⟨o, ?_, Json.Object.get?_of_value kept⟩
  simp only [Gateway.readObject, parseObject, small, hands.object, kept, ↓reduceIte]

/-- An object that can be read was handed over. -/
theorem hands_of_readObject {route : Route} {r : Http.Request} {o : Json.Object}
    (posted : r.method = "POST") (path : Route.ofPath? r.route = some route)
    (kind : route.takesForms = true → r.bodyKind = .json) (read : readObject r = .ok o) :
    ∃ members, Hands route r members := by
  have small : r.body.size ≤ bodyLimit := by
    apply Nat.not_lt.1
    intro large
    rw [readObject, if_pos large] at read
    cases read
  obtain ⟨j, written, kept⟩ := readObject_eq_ok read
  cases j with
  | object members => exact ⟨members, posted, path, kind, small, written⟩
  | null | bool _ | number _ | string _ | array _ => cases kept

/-- Values are the same when they are written down the same. -/
theorem canonical_of_value {a b : Option Json} (same : a.map Json.value = b.map Json.value) :
    a.map Json.canonical = b.map Json.canonical := by
  have written (j : Option Json) : (j.map Json.value).map Json.Value.json = j.map Json.canonical := by
    rw [Option.map_map]
    rfl
  rw [← written a, ← written b, same]

theorem Ready.kept {defaults : Defaults} {draws : Draws} {r : Http.Request} {route : Route}
    {p : Prepared} {kind : Kind} (templated : route.kind? = some kind)
    (ready : Ready defaults draws r route p) : Kept defaults draws p.envelope := by
  cases ready with
  | backtest | strategyUpload => exact ⟨rfl, rfl, rfl, rfl, rfl⟩
  | dataRequest => exact ⟨rfl, rfl, rfl, trivial⟩
  | @fileUpload q file filled =>
    unfold Template.filePayload at filled
    cases decoded : Base64.decodeText q.fileContent with
    | error fault =>
      rw [decoded] at filled
      cases filled
    | ok content =>
      rw [decoded] at filled
      cases filled
      exact ⟨rfl, rfl, rfl, rfl, content, decoded, rfl⟩
  | custom => cases templated

variable (s : Settings)

/-- A route that publishes looks only at what its preparing makes of a request. -/
theorem handle_congr {σ ρ φ : Type} {route : Route} {r₁ r₂ : Http.Request} {draws : Draws}
    (posted₁ : r₁.method = "POST") (posted₂ : r₂.method = "POST")
    (path₁ : Route.ofPath? r₁.route = some route) (path₂ : Route.ofPath? r₂.route = some route)
    (same : route.prepare s.defaults draws r₁ = route.prepare s.defaults draws r₂)
    (c : Connector σ ρ φ) (broker : σ) :
    handle s c draws r₁ broker = handle s c draws r₂ broker := by
  rw [handle_posted s posted₁ path₁, handle_posted s posted₂ path₂, publishAnswer, publishAnswer,
    same]

/-- Two bodies that have the same values for the fields that their route documents are served alike:
whatever else they hold and however they are written, the answers are the same, and so is what
happens to any broker. What a templated route publishes has its own routing key and message type, the
identity that was drawn for it and the settings of the gateway. -/
theorem documented_fields_decide {route : Route} {r₁ r₂ : Http.Request}
    {members₁ members₂ : List (String × Json)} (first : Hands route r₁ members₁)
    (second : Hands route r₂ members₂)
    (same : ∀ name ∈ route.fields, ((Json.object members₁).member? name).map Json.value =
      ((Json.object members₂).member? name).map Json.value) :
    (∀ {σ ρ φ : Type} (c : Connector σ ρ φ) (draws : Draws) (broker : σ),
      handle s c draws r₁ broker = handle s c draws r₂ broker) ∧
    ∀ kind, route.kind? = some kind → ∀ (topology : Topology) (draws : Draws) (broker : Memory),
      Accepted r₁ (serve s topology draws r₁ broker).1 → ∃ message,
        (serve s topology draws r₁ broker).2.published = broker.published ++ [message] ∧
        (serve s topology draws r₂ broker).2.published = broker.published ++ [message] ∧
        message.routingKey = kind.messageType ∧
        message.envelope.messageType = kind.messageType ∧
        message.envelope.payload.kind? = some kind ∧
        Kept s.defaults draws message.envelope := by
  obtain ⟨a, read₁, found₁⟩ := first.readObject
  obtain ⟨b, read₂, found₂⟩ := second.readObject
  -- Writings with the same value are kept as the same member, so the objects agree on the fields.
  have agree : a.AgreeOn route.fields b := by
    intro name documented
    rw [found₁, found₂]
    exact canonical_of_value (same name documented)
  have served {σ ρ φ : Type} (c : Connector σ ρ φ) (draws : Draws) (broker : σ) :
      handle s c draws r₁ broker = handle s c draws r₂ broker :=
    handle_congr s first.posted second.posted first.path second.path
      (prepare_congr s.defaults draws read₁ read₂ first.kind second.kind agree) c broker
  refine ⟨served, fun kind templated topology draws broker accepted => ?_⟩
  obtain ⟨route', p, path, ready, eq⟩ := accepted_cases accepted
  cases first.path.symm.trans path
  obtain ⟨type, key⟩ := ready.messageType_eq templated
  refine ⟨Memory.record topology (outgoing draws p), ?_, ?_, key, type,
    ready.kind?_payload.trans templated, ready.kept templated⟩
  · rw [eq]
    rfl
  · have alike : serve s topology draws r₂ broker = serve s topology draws r₁ broker :=
      (served (Memory.connector topology) draws broker).symm
    rw [alike, eq]
    rfl

def backtestRequest (body : String) : Http.Request where
  method := "POST"
  path := "/api/backtest"
  headers := []
  body := body.toUTF8

/-- A request in plain writing, and one with blanks, escapes, another order, an older value for the
strategy, the capital in another spelling and settings that are none of its business. -/
theorem settings_of_request_ignored :
    let capital : Json := .number (.real ((Real64.ofDecimal? false 1 5).get (by decide +kernel)))
    let plain := backtestRequest "\x7b\"strategy_id\":\"s\",\"start_date\":\"a\",\"end_date\":\"b\",
      \"initial_capital\":1e5,\"instruments\":[\"x\"]\x7d"
    let adorned := backtestRequest "\x7b \"strategy_id\": \"t\", \"instruments\": [\"\\u0078\"],
      \"execution_settings\": \x7b\"slippage\": 1\x7d, \"initial_capital\": 100000.0,
      \"end_date\": \"b\", \"start_date\": \"a\", \"message_id\": 7, \"strategy_id\": \"s\" \x7d"
    let members : List (String × Json) := [("strategy_id", .string "s"), ("start_date", .string "a"),
      ("end_date", .string "b"), ("initial_capital", capital), ("instruments", .array [.string "x"])]
    let others : List (String × Json) := [("strategy_id", .string "t"),
      ("instruments", .array [.string "x"]),
      ("execution_settings", .object [("slippage", .number (.integer 1 (by decide)))]),
      ("initial_capital", capital), ("end_date", .string "b"), ("start_date", .string "a"),
      ("message_id", .number (.integer 7 (by decide))), ("strategy_id", .string "s")]
    Hands .backtest plain members ∧ Hands .backtest adorned others ∧
    (∀ name ∈ Route.backtest.fields, ((Json.object members).member? name).map Json.value =
      ((Json.object others).member? name).map Json.value) ∧
    (∀ draws broker, handle strictSettings (Memory.connector .standard) draws plain broker =
      handle strictSettings (Memory.connector .standard) draws adorned broker) ∧
    ∃ message, (serve strictSettings .standard zeroDraws adorned .fresh).2.published = [message] ∧
      message.routingKey = "backtest.request" ∧ Kept .builtIn zeroDraws message.envelope := by
  intro capital plain adorned members others
  have first : Hands .backtest plain members :=
    ⟨rfl, by decide +kernel, nofun, by decide +kernel, by decide +kernel⟩
  have second : Hands .backtest adorned others :=
    ⟨rfl, by decide +kernel, nofun, by decide +kernel, by decide +kernel⟩
  have same : ∀ name ∈ Route.backtest.fields, ((Json.object members).member? name).map Json.value =
      ((Json.object others).member? name).map Json.value := by decide +kernel
  obtain ⟨served, published⟩ := documented_fields_decide strictSettings first second same
  have accepted : Accepted plain (serve strictSettings .standard zeroDraws plain .fresh).1 := by
    decide +kernel
  obtain ⟨message, _, recorded, key, _, _, kept⟩ :=
    published .backtest rfl .standard zeroDraws .fresh accepted
  exact ⟨first, second, same, served _, message, recorded, key, kept⟩

end Gateway

end TopicGateway
