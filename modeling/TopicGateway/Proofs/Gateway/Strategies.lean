import TopicGateway.Proofs.Gateway.Answers
import TopicGateway.Proofs.Gateway.Uploads

/-! Strategies that are uploaded in a form, and strategies that are uploaded in an object. Either way
the strategy is the same, but that a form has a file, and a file may have a name: a strategy without a
name is then called after its file and not after its identifier. -/
namespace TopicGateway.Gateway

open Message
open Broker (Connector Memory Outgoing Topology)

structure Strategy where
  code : String
  strategyId : Option String
  name : Option String
  version : Option String

namespace Strategy

/-- A request with the code as the file of a form. A file without a name has the empty one. -/
structure InForm (u : Strategy) (fileName : String) (r : Http.Request) : Prop where
  posted : r.method = "POST"
  path : Route.ofPath? r.route = some .strategyUpload
  kind : r.bodyKind = .multipart
  form : ∃ form, readForm r = .ok form ∧ form.file = some ⟨fileName, Text.Utf8.encode u.code⟩ ∧
    form.field "strategy_id" = u.strategyId ∧ form.field "strategy_name" = u.name ∧
    form.field "version" = u.version

structure InObject (u : Strategy) (r : Http.Request) : Prop where
  object : ∃ members, Hands .strategyUpload r members
  code : saidText? r "code" = some u.code
  strategyId : Gives (said? r "strategy_id") u.strategyId
  name : Gives (said? r "strategy_name") u.name
  version : Gives (said? r "version") u.version

/-- A request that brings a strategy, with the name of its file. -/
inductive Brings (u : Strategy) (r : Http.Request) : String → Prop
  | form {fileName : String} (inForm : u.InForm fileName r) : Brings u r fileName
  | object (inObject : u.InObject r) : Brings u r ""

/-- The identifier of a strategy, which is drawn where it has none. -/
def id (u : Strategy) (draws : Draws) : String :=
  u.strategyId.getD draws.strategyId.text

def title (u : Strategy) (fileName id : String) : String :=
  match u.name with
  | some name => name
  | none => if fileName = "" then "Strategy_" ++ id else fileName

def payload (u : Strategy) (fileName : String) (defaults : Defaults) (id : String) :
    StrategyUpload where
  strategyId := id
  name := u.title fileName id
  version := u.version.getD defaults.strategy.version
  code := u.code
  parameters := .empty
  tags := defaults.strategy.tags

def answer (id : String) (messageId : Uuid) : Json :=
  .object [
    ("message", .string "strategy uploaded"),
    ("strategy_id", .string id),
    ("message_id", .string messageId.text)]

def request (u : Strategy) (fileName : String) (draws : Draws) : StrategyRequest where
  strategyId := u.id draws
  name := u.title fileName (u.id draws)
  code := u.code
  version := u.version

def prepared (u : Strategy) (fileName : String) (defaults : Defaults) (draws : Draws) : Prepared where
  routingKey := Kind.strategyUpload.messageType
  envelope := Template.ofKind draws.stamp .strategyUpload
    (.strategyUpload (u.payload fileName defaults (u.id draws)))
  answer := answer (u.id draws) draws.stamp.messageId

variable {u : Strategy} {fileName : String} {draws : Draws}

theorem title_eq (u : Strategy) (fileName id : String) :
    u.title fileName id = u.name.getD (if fileName = "" then defaultName id else fileName) := by
  rw [title]
  cases u.name <;> rfl

theorem strategyFromForm_eq_ok_iff {form : Http.Form} {q : StrategyRequest} :
    strategyFromForm draws form = .ok q ↔ ∃ (u : Strategy) (fileName : String),
      form.file = some ⟨fileName, Text.Utf8.encode u.code⟩ ∧
      form.field "strategy_id" = u.strategyId ∧ form.field "strategy_name" = u.name ∧
      form.field "version" = u.version ∧ q = u.request fileName draws := by
  constructor
  · intro taken
    unfold strategyFromForm at taken
    split at taken
    · cases taken
    · next file given =>
      split at taken
      · cases taken
      · next code decoded =>
        cases taken
        have content : file.content = Text.Utf8.encode code := Text.Utf8.decode?_eq_some_iff.1 decoded
        refine ⟨⟨code, form.field "strategy_id", form.field "strategy_name", form.field "version"⟩,
          file.fileName, ?_, rfl, rfl, rfl, ?_⟩
        · rw [given, ← content]
        · rw [request, title_eq]
          rfl
  · rintro ⟨u, fileName, file, strategyId, name, version, rfl⟩
    simp only [strategyFromForm, file, Text.Utf8.decode?_encode, strategyId, name, version, request,
      title_eq]
    rfl

theorem strategyFromObject_eq_ok_iff {r : Http.Request} {o : Json.Object} {q : StrategyRequest}
    (read : readObject r = .ok o) :
    strategyFromObject draws o = .ok q ↔ ∃ u : Strategy, saidText? r "code" = some u.code ∧
      Gives (said? r "strategy_id") u.strategyId ∧ Gives (said? r "strategy_name") u.name ∧
      Gives (said? r "version") u.version ∧ q = u.request "" draws := by
  have optional {name : String} {given : Option String} :
      optionalString o name = .ok given ↔ Gives (said? r name) given := by
    rw [optionalString_eq_ok_iff, get?_of_readObject read, gives_canonical_iff]
  have text {name given : String} : stringField o name = .ok given ↔ saidText? r name = some given := by
    rw [stringField_eq_ok_iff, textField?_of_readObject read]
  constructor
  · intro taken
    obtain ⟨_, _, taken⟩ := bind_eq_ok taken
    obtain ⟨strategyId, id_read, taken⟩ := bind_eq_ok taken
    obtain ⟨name, name_read, taken⟩ := bind_eq_ok taken
    obtain ⟨code, code_read, taken⟩ := bind_eq_ok taken
    obtain ⟨version, version_read, taken⟩ := bind_eq_ok taken
    cases taken
    refine ⟨⟨code, strategyId, name, version⟩, text.1 code_read, optional.1 id_read,
      optional.1 name_read, optional.1 version_read, ?_⟩
    rw [request, title_eq]
    rfl
  · rintro ⟨u, code, strategyId, name, version, rfl⟩
    obtain ⟨j, found, _⟩ := Option.bind_eq_some_iff.1 (stringField_eq_ok_iff.1 (text.2 code))
    have present : requireFields o ["code"] = .ok () := by
      apply requireFields_of_present
      simp [found]
    simp only [strategyFromObject, present, optional.2 strategyId, optional.2 name, text.2 code,
      optional.2 version, request, title_eq, bind, Except.bind]
    rfl

section Preparing

variable {defaults : Defaults} {r : Http.Request} {p : Prepared}

theorem Brings.posted (brings : u.Brings r fileName) : r.method = "POST" := by
  cases brings with
  | form inForm => exact inForm.posted
  | object inObject =>
    obtain ⟨members, hands⟩ := inObject.object
    exact hands.posted

theorem Brings.path (brings : u.Brings r fileName) :
    Route.ofPath? r.route = some .strategyUpload := by
  cases brings with
  | form inForm => exact inForm.path
  | object inObject =>
    obtain ⟨members, hands⟩ := inObject.object
    exact hands.path

/-- A message is made of a strategy, whichever way it comes. -/
theorem Brings.prepare (brings : u.Brings r fileName) :
    Route.strategyUpload.prepare defaults draws r = .ok (u.prepared fileName defaults draws) := by
  cases brings with
  | form inForm =>
    obtain ⟨form, read, file, strategyId, name, version⟩ := inForm.form
    have taken : strategyFromForm draws form = .ok (u.request fileName draws) :=
      strategyFromForm_eq_ok_iff.2 ⟨u, fileName, file, strategyId, name, version, rfl⟩
    simp only [Route.prepare, prepareStrategy, inForm.kind, read, taken, bind, Except.bind]
    rfl
  | object inObject =>
    obtain ⟨members, hands⟩ := inObject.object
    obtain ⟨o, read, _⟩ := hands.readObject
    have taken : strategyFromObject draws o = .ok (u.request "" draws) :=
      (strategyFromObject_eq_ok_iff read).2
        ⟨u, inObject.code, inObject.strategyId, inObject.name, inObject.version, rfl⟩
    simp only [Route.prepare, prepareStrategy, hands.kind rfl, read, taken, bind, Except.bind]
    rfl

/-- A message is made of nothing else. -/
theorem brings_of_prepare (posted : r.method = "POST")
    (path : Route.ofPath? r.route = some .strategyUpload)
    (ready : Route.strategyUpload.prepare defaults draws r = .ok p) :
    ∃ u fileName, Brings u r fileName ∧ p = u.prepared fileName defaults draws := by
  obtain ⟨q, ⟨kind, form, read, taken⟩ | ⟨kind, o, read, taken⟩, rfl⟩ := prepareStrategy_eq_ok ready
  · obtain ⟨u, fileName, file, strategyId, name, version, rfl⟩ := strategyFromForm_eq_ok_iff.1 taken
    exact ⟨u, fileName, .form ⟨posted, path, kind, form, read, file, strategyId, name, version⟩, rfl⟩
  · obtain ⟨u, code, strategyId, name, version, rfl⟩ := (strategyFromObject_eq_ok_iff read).1 taken
    have object := hands_of_readObject posted path (fun _ => kind) read
    exact ⟨u, "", .object ⟨object, code, strategyId, name, version⟩, rfl⟩

/-- A file that is no text is refused. -/
theorem prepare_of_no_text (defaults : Defaults) (draws : Draws) (kind : r.bodyKind = .multipart) {form : Http.Form}
    (read : readForm r = .ok form) {file : Http.UploadedFile} (given : form.file = some file)
    (other : ∀ code, file.content ≠ Text.Utf8.encode code) :
    Route.strategyUpload.prepare defaults draws r =
      .error (.invalidField "file" "strategy file is not valid UTF-8") := by
  have undecoded : Text.Utf8.decode? file.content = none := by
    apply Option.eq_none_iff_forall_ne_some.2
    intro code decoded
    exact other code (Text.Utf8.decode?_eq_some_iff.1 decoded)
  simp only [Route.prepare, prepareStrategy, kind, read, strategyFromForm, given, undecoded, bind,
    Except.bind]

end Preparing

/-- The strategy is published and answered for, under its identifier. -/
structure Taken (u : Strategy) (fileName : String) (defaults : Defaults) (draws : Draws)
    (before : Memory) (served : Http.Answer × Memory) : Prop where
  answer : served.1 = jsonAnswer 200 (answer (u.id draws) draws.stamp.messageId)
  published : ∃ message, served.2.published = before.published ++ [message] ∧
    message.envelope.payload = .strategyUpload (u.payload fileName defaults (u.id draws))

structure Lost (before : Memory) (served : Http.Answer × Memory) : Prop where
  answer : served.1 = errorAnswer 500 "failed to send strategy upload"
  published : served.2.published = before.published

/-- The broker decides whether a strategy is published. -/
theorem Brings.serve_cases {s : Settings} {topology : Topology} {r : Http.Request}
    (brings : u.Brings r fileName) (broker : Memory) :
    ((broker.Refuses topology ∨ broker.failPublish = true) ∧
      Lost broker (serve s topology draws r broker)) ∨
    (¬(broker.Refuses topology ∨ broker.failPublish = true) ∧
      u.Taken fileName s.defaults draws broker (serve s topology draws r broker)) := by
  have ready : Route.strategyUpload.prepare s.defaults draws r =
      .ok (u.prepared fileName s.defaults draws) := brings.prepare
  rcases serve_cases_of_ready topology broker brings.posted brings.path ready rfl with
    ⟨fails, failed, same⟩ | ⟨accepts, switch, served⟩
  · exact .inl ⟨fails, failed, same⟩
  · refine .inr ⟨by simp [accepts, switch], ?_⟩
    rw [served]
    exact ⟨rfl, _, rfl, rfl⟩

/-- Requests that bring the same strategy have the same success on brokers that are alike. -/
theorem Brings.fare_alike {s : Settings} {topology : Topology} {r₁ r₂ : Http.Request} {f₁ f₂ : String}
    (first : u.Brings r₁ f₁) (second : u.Brings r₂ f₂) {a b : Memory}
    (alike : Memory.Alike topology a b) (d₁ d₂ : Draws) :
    ((a.Refuses topology ∨ a.failPublish = true) ∧
      Lost a (serve s topology d₁ r₁ a) ∧ Lost b (serve s topology d₂ r₂ b)) ∨
    (¬(a.Refuses topology ∨ a.failPublish = true) ∧
      u.Taken f₁ s.defaults d₁ a (serve s topology d₁ r₁ a) ∧
      u.Taken f₂ s.defaults d₂ b (serve s topology d₂ r₂ b)) := by
  rcases first.serve_cases a with ⟨fails, lost⟩ | ⟨serves, taken⟩
  · rcases second.serve_cases b with ⟨_, lost'⟩ | ⟨serves', _⟩
    · exact .inl ⟨fails, lost, lost'⟩
    · exact absurd (alike.loses.1 fails) serves'
  · rcases second.serve_cases b with ⟨fails', _⟩ | ⟨_, taken'⟩
    · exact absurd (alike.loses.2 fails') serves
    · exact .inr ⟨serves, taken, taken'⟩

/-- The name of its file is all that is published of a strategy in a form besides what is published of
it in an object, and it counts only where the strategy has no name. -/
theorem payload_eq (u : Strategy) (fileName : String) (defaults : Defaults) (id : String) :
    u.payload fileName defaults id = { u.payload "" defaults id with
      name := u.name.getD (if fileName = "" then "Strategy_" ++ id else fileName) } := by
  rw [payload, title_eq]
  rfl

theorem prepared_eq (u : Strategy) (kept : fileName = "" ∨ u.name ≠ none) (defaults : Defaults)
    (draws : Draws) : u.prepared fileName defaults draws = u.prepared "" defaults draws := by
  have same : u.title fileName (u.id draws) = u.title "" (u.id draws) := by
    rcases kept with rfl | named
    · rfl
    · obtain ⟨name, given⟩ := Option.ne_none_iff_exists'.1 named
      simp only [title, given]
  rw [prepared, prepared, payload, payload, same]

theorem accepted_of_brings {σ ρ φ : Type} {s : Settings} {c : Connector σ ρ φ} {r : Http.Request}
    {broker : σ} (path : Route.ofPath? r.route = some .strategyUpload)
    (ok : (handle s c draws r broker).1.status = 200) :
    ∃ u fileName, Brings u r fileName ∧
      (handle s c draws r broker).1 = jsonAnswer 200 (answer (u.id draws) draws.stamp.messageId) ∧
      c.publishFresh (outgoing draws (u.prepared fileName s.defaults draws)) broker =
        (.ok true, (handle s c draws r broker).2) := by
  have accepted := accepted_of_ok path ok
  obtain ⟨route, p, given, ready, answered, went⟩ := accepted_sent accepted
  cases path.symm.trans given
  obtain ⟨u, fileName, brings, rfl⟩ := brings_of_prepare accepted.1 path ready
  exact ⟨u, fileName, brings, answered, went⟩

end Strategy

/-- A strategy that is uploaded in a form and the same strategy in an object are served alike by every
gateway, where its file has no name or the strategy has one. On brokers that are alike both are lost, or
both are published and answered for, each under the identifier that was given or drawn; what is
published differs in the name alone, and in that only where the file gives it. Whatever is accepted is
such a strategy, under one identifier, and with the version of the gateway where it has none. A file
that is no text is refused before a broker is asked. -/
theorem strategies_agree (s : Settings) :
    (∀ (u : Strategy) (fileName : String) (form object : Http.Request),
      u.InForm fileName form → u.InObject object →
      (fileName = "" ∨ u.name ≠ none →
        ∀ {σ ρ φ : Type} (c : Connector σ ρ φ) (draws : Draws) (broker : σ),
          handle s c draws form broker = handle s c draws object broker) ∧
      (∀ (topology : Topology) {a b : Memory}, Memory.Alike topology a b → ∀ d₁ d₂ : Draws,
        let first := serve s topology d₁ form a
        let second := serve s topology d₂ object b
        ((a.Refuses topology ∨ a.failPublish = true) ∧
          Strategy.Lost a first ∧ Strategy.Lost b second) ∨
        (¬(a.Refuses topology ∨ a.failPublish = true) ∧
          u.Taken fileName s.defaults d₁ a first ∧ u.Taken "" s.defaults d₂ b second)) ∧
      ∀ id, u.payload fileName s.defaults id = { u.payload "" s.defaults id with
        name := u.name.getD (if fileName = "" then "Strategy_" ++ id else fileName) }) ∧
    (∀ {σ ρ φ : Type} (c : Connector σ ρ φ) (draws : Draws) (r : Http.Request) (broker : σ),
      Route.ofPath? r.route = some .strategyUpload →
      (handle s c draws r broker).1.status = 200 →
      ∃ (u : Strategy) (fileName : String) (m : Outgoing) (p : StrategyUpload),
        u.Brings r fileName ∧ m.envelope.messageId = draws.stamp.messageId ∧
        m.envelope.payload = .strategyUpload p ∧ p = u.payload fileName s.defaults (u.id draws) ∧
        c.publishFresh m broker = (.ok true, (handle s c draws r broker).2) ∧
        (handle s c draws r broker).1 =
          jsonAnswer 200 (Strategy.answer p.strategyId draws.stamp.messageId) ∧
        (u.strategyId = none → p.strategyId = draws.strategyId.text) ∧
        (u.name = none → fileName = "" → p.name = "Strategy_" ++ p.strategyId) ∧
        (u.version = none → p.version = s.defaults.strategy.version)) ∧
    ∀ (r : Http.Request) (form : Http.Form) (file : Http.UploadedFile), r.method = "POST" →
      Route.ofPath? r.route = some .strategyUpload → r.bodyKind = .multipart →
      readForm r = .ok form → form.file = some file →
      (∀ code, file.content ≠ Text.Utf8.encode code) →
      ∀ {σ ρ φ : Type} (c : Connector σ ρ φ) (draws : Draws) (broker : σ),
        handle s c draws r broker =
          (errorAnswer 400 "invalid field file: strategy file is not valid UTF-8", broker) := by
  refine ⟨fun u fileName form object inForm inObject => ?_, fun c draws r broker path ok => ?_,
    fun r form file posted path kind read given other _ _ _ c draws broker => ?_⟩
  · have first : u.Brings form fileName := .form inForm
    have second : u.Brings object "" := .object inObject
    refine ⟨fun kept _ _ _ c draws broker => ?_,
      fun topology _ _ alike d₁ d₂ => first.fare_alike second alike d₁ d₂,
      u.payload_eq fileName s.defaults⟩
    apply handle_congr s first.posted second.posted first.path second.path
    rw [first.prepare, second.prepare, u.prepared_eq kept]
  · obtain ⟨u, fileName, brings, answered, went⟩ := Strategy.accepted_of_brings path ok
    refine ⟨u, fileName, _, _, brings, rfl, rfl, rfl, went, answered, fun absent => ?_,
      fun absent unnamed => ?_, fun absent => ?_⟩
    · simp only [Strategy.payload, Strategy.id, absent, Option.getD_none]
    · simp only [Strategy.payload, Strategy.title, absent, unnamed, ↓reduceIte]
    · simp only [Strategy.payload, absent, Option.getD_none]
  · have refused := Strategy.prepare_of_no_text s.defaults draws kind read given other
    rw [handle_posted s posted path, publishAnswer_of_error refused]
    rfl

def namedFile (content : List UInt8) : Http.Request where
  method := "POST"
  path := "/api/strategy/upload"
  headers := [("content-type", "multipart/form-data; boundary=x".toUTF8.data.toList)]
  body := "--x\r\ncontent-disposition: form-data; name=\"file\"; filename=\"s.py\"\r\n\r\n".toUTF8 ++
    ⟨content.toArray⟩ ++ "\r\n--x--\r\n".toUTF8

/-- A strategy without a name is called after its file in a form, and after the identifier that was
drawn for it in an object. Another file is no text. -/
theorem unnamed_strategies_agree :
    let u : Strategy := ⟨"pass", none, none, none⟩
    let form := namedFile (Text.Utf8.encode "pass")
    let drawn := zeroDraws.strategyId.text
    u.InForm "s.py" form ∧ u.InObject unnamedStrategy ∧
    u.Taken "s.py" .builtIn zeroDraws .fresh
      (serve strictSettings .standard zeroDraws form .fresh) ∧
    u.Taken "" .builtIn zeroDraws .fresh
      (serve strictSettings .standard zeroDraws unnamedStrategy .fresh) ∧
    (u.payload "s.py" .builtIn drawn).name = "s.py" ∧
    (u.payload "" .builtIn drawn).name = "Strategy_" ++ drawn ∧
    ∀ {σ ρ φ : Type} (c : Connector σ ρ φ) (draws : Draws) (broker : σ),
      handle strictSettings c draws (namedFile [0xff]) broker =
        (errorAnswer 400 "invalid field file: strategy file is not valid UTF-8", broker) := by
  intro u form drawn
  have inForm : u.InForm "s.py" form := by
    have read : readForm form = .ok ⟨some ⟨"s.py", Text.Utf8.encode u.code⟩, []⟩ := by
      decide +kernel
    exact ⟨rfl, by decide +kernel, by decide +kernel, _, read, rfl, rfl, rfl, rfl⟩
  have inObject : u.InObject unnamedStrategy := by
    have hands : Hands .strategyUpload unnamedStrategy [("code", .string "pass")] :=
      ⟨rfl, by decide +kernel, fun _ => by decide +kernel, by decide +kernel, by decide +kernel⟩
    exact ⟨⟨_, hands⟩, by decide +kernel, .inl (by decide +kernel), .inl (by decide +kernel),
      .inl (by decide +kernel)⟩
  obtain ⟨agree, _, refused⟩ := strategies_agree strictSettings
  obtain ⟨_, fare, _⟩ := agree u "s.py" form unnamedStrategy inForm inObject
  rcases fare .standard (Memory.Alike.refl .fresh) zeroDraws zeroDraws with
    ⟨(opposite | ⟨_, declared, _⟩) | opposite, _⟩ | ⟨_, first, second⟩
  · exact absurd opposite (by decide)
  · exact absurd declared nofun
  · exact absurd opposite (by decide)
  · have other : ∀ code, [0xff] ≠ Text.Utf8.encode code := by
      intro code same
      have decoded := Text.Utf8.decode?_encode code
      rw [← same] at decoded
      cases decoded
    have read : readForm (namedFile [0xff]) = .ok ⟨some ⟨"s.py", [0xff]⟩, []⟩ := by decide +kernel
    exact ⟨inForm, inObject, first, second, rfl, rfl, fun c draws broker =>
      refused _ _ ⟨"s.py", [0xff]⟩ rfl (by decide +kernel) (by decide +kernel) read rfl other c draws
        broker⟩

end TopicGateway.Gateway
