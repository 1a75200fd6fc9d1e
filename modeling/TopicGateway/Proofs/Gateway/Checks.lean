import TopicGateway.Proofs.Gateway.Custom
import TopicGateway.Proofs.Gateway.Documented

/-! In which order a body is checked. Each route has its list of checks, and what is made of a request
follows it: the first check that fails is the answer, and a message is made where none does. One lemma
for each way of reading a field says which check it is; the routes put them together. -/
namespace TopicGateway.Gateway

open Message
open Broker (Connector Memory Topology)

/-- What the body of a request may be checked for, by the names of its fields. -/
inductive Check where
  /-- The body is an object, and not too large. -/
  | object
  | present (name : String)
  /-- A text or a number. -/
  | text (name : String)
  /-- A text or a number, `null` or nothing. -/
  | optionalText (name : String)
  | number (name : String)
  /-- A list of texts. -/
  | texts (name : String)
  /-- Not the empty text. -/
  | filled (name : String)
  /-- Not white space only. -/
  | visible (name : String)
  | base64 (name : String)

def itemRefusal? (name : String) : Json → Option Refusal
  | .string _ => none
  | j => some (wrongKind name j "a string")

def Check.refusal? (r : Http.Request) : Check → Option Refusal
  | .object =>
    if bodyLimit < r.body.size then some (.malformedBody "length limit exceeded")
    else
      match Json.read r.body.data.toList with
      | .ok (.object _) => none
      | .ok _ => some (.malformedBody "expected a JSON object")
      | .error f => some (.malformedBody ("invalid JSON: " ++ f.message r.body.data.toList))
  | .present name =>
    match said? r name with
    | some _ => none
    | none => some (.missingField name)
  | .text name =>
    match said? r name with
    | some (.string _) | some (.number _) => none
    | some _ => some (.invalidField name "expected a string")
    | none => some (.missingField name)
  | .optionalText name =>
    match said? r name with
    | none | some .null | some (.string _) | some (.number _) => none
    | some _ => some (.invalidField name "expected a string")
  | .number name =>
    match said? r name with
    | some (.number _) => none
    | some j => some (wrongKind name j "a JSON number")
    | none => some (.missingField name)
  | .texts name =>
    match said? r name with
    | some (.array items) => items.findSome? (itemRefusal? name)
    | some j => some (wrongKind name j "a sequence")
    | none => some (.missingField name)
  | .filled name => if saidText? r name = some "" then some .noFileSelected else none
  | .visible name =>
    match saidText? r name with
    | some given =>
      if given.toList.all Text.isWhite then some (.invalidField name "must not be empty") else none
    | none => none
  | .base64 name =>
    match saidText? r name with
    | some given =>
      match Base64.decodeText given with
      | .ok _ => none
      | .error fault => some (.template fault)
    | none => none

/-- The fields that a body has to have, in the order in which they are missed. -/
def Route.required : Route → List String
  | .backtest => ["strategy_id", "start_date", "end_date", "initial_capital", "instruments"]
  | .strategyUpload => ["code"]
  | .dataRequest => ["instrument_id", "start_date", "end_date"]
  | .fileUpload => ["file_name", "file_content"]
  | .custom => ["routing_key", "payload"]

/-- What the fields of a body are checked for, in this order. -/
def Route.kinds : Route → List Check
  | .backtest => [.text "strategy_id", .text "start_date", .text "end_date",
    .number "initial_capital", .texts "instruments"]
  | .strategyUpload => [.optionalText "strategy_id", .optionalText "strategy_name", .text "code",
    .optionalText "version"]
  | .dataRequest => [.text "instrument_id", .text "start_date", .text "end_date",
    .optionalText "frequency"]
  | .fileUpload => [.text "file_name", .filled "file_name", .text "file_content",
    .optionalText "file_type", .optionalText "related_id", .base64 "file_content"]
  | .custom => [.text "routing_key", .visible "routing_key", .optionalText "message_type",
    .optionalText "correlation_id"]

/-- All checks of a route. Absence is checked before any kind. -/
def Route.checks (route : Route) : List Check :=
  .object :: (route.required.map .present ++ route.kinds)

def firstRefusal? (r : Http.Request) (checks : List Check) : Option Refusal :=
  checks.findSome? (·.refusal? r)

def Passes (r : Http.Request) (checks : List Check) : Prop :=
  ∀ check ∈ checks, check.refusal? r = none

/-- What is refused is refused with this, and where there is nothing to refuse with, something is made. -/
def Settles {α : Type} (x : Except Refusal α) : Option Refusal → Prop
  | some refusal => x = .error refusal
  | none => ∃ a, x = .ok a

/-- The first of the checks that fails decides what is made of a request. -/
def Follows {α : Type} (r : Http.Request) (checks : List Check) (x : Except Refusal α) : Prop :=
  Settles x (firstRefusal? r checks)

attribute [local simp] Check.refusal?

section Following

variable {α β : Type} {r : Http.Request} {check : Check} {checks others : List Check}
  {x : Except Refusal α}

theorem firstRefusal?_eq_none_iff : firstRefusal? r checks = none ↔ Passes r checks :=
  List.findSome?_eq_none_iff

theorem firstRefusal?_of_split {before after : List Check} {refusal : Refusal}
    (passed : Passes r before) (failed : check.refusal? r = some refusal) :
    firstRefusal? r (before ++ check :: after) = some refusal :=
  List.findSome?_eq_some_iff.2 ⟨before, check, after, rfl, failed, passed⟩

theorem follows_ok (a : α) : Follows r [] (.ok a) :=
  ⟨a, rfl⟩

theorem follows_singleton (settles : Settles x (check.refusal? r)) : Follows r [check] x := by
  rwa [Follows, firstRefusal?, List.findSome?_singleton]

theorem follows_of_failed {refusal : Refusal} (failed : check.refusal? r = some refusal) :
    Follows r (check :: checks) (.error refusal : Except Refusal α) := by
  rw [Follows, firstRefusal?, List.findSome?_cons, failed]
  rfl

theorem Follows.of_passed (passed : check.refusal? r = none) (rest : Follows r checks x) :
    Follows r (check :: checks) x := by
  rwa [Follows, firstRefusal?, List.findSome?_cons, passed]

/-- What is done in turn is checked in turn. -/
theorem Follows.append {f : α → Except Refusal β} (first : Follows r checks x)
    (rest : ∀ a, x = .ok a → Follows r others (f a)) : Follows r (checks ++ others) (x >>= f) := by
  have split : firstRefusal? r (checks ++ others) =
      (firstRefusal? r checks).or (firstRefusal? r others) := List.findSome?_append
  unfold Follows at first ⊢
  rw [split]
  cases failed : firstRefusal? r checks with
  | some refusal =>
    -- Nothing is done behind a refusal, and nothing is checked behind a check that failed.
    rw [failed] at first
    obtain rfl := first
    rfl
  | none =>
    rw [failed] at first
    obtain ⟨a, rfl⟩ := first
    exact rest a rfl

theorem Follows.cons {f : α → Except Refusal β} (first : Follows r [check] x)
    (rest : ∀ a, x = .ok a → Follows r checks (f a)) : Follows r (check :: checks) (x >>= f) :=
  first.append rest

theorem Follows.map (f : α → β) (follows : Follows r checks x) :
    Follows r checks (x >>= fun a => .ok (f a)) := by
  have last : Follows r (checks ++ []) (x >>= fun a => .ok (f a)) :=
    follows.append fun a _ => follows_ok (f a)
  rwa [List.append_nil] at last

end Following

section Fields

variable {r : Http.Request} {o : Json.Object} (name : String)

theorem readObject_follows (r : Http.Request) : Follows r [.object] (readObject r) := by
  apply follows_singleton
  simp only [readObject, parseObject, Check.refusal?]
  by_cases large : bodyLimit < r.body.size
  · simp only [large, ↓reduceIte]
    rfl
  · simp only [large, ↓reduceIte]
    cases Json.read r.body.data.toList with
    | error f => rfl
    | ok j =>
      cases j with
      | object members => exact ⟨_, rfl⟩
      | null | bool _ | number _ | string _ | array _ => rfl

/-- Of fields that have to be there, the first one that is not is missed. -/
theorem firstRefusal?_present (r : Http.Request) (names : List String) :
    firstRefusal? r (names.map .present) =
      (names.find? fun name => (said? r name).isNone).map .missingField := by
  induction names with
  | nil => rfl
  | cons name names ih =>
    rw [firstRefusal?, List.map_cons, List.findSome?_cons, List.find?_cons]
    cases said : said? r name with
    | none => simp [Check.refusal?, said]
    | some j =>
      simp only [Check.refusal?, said, Option.isNone_some]
      exact ih

/-- What is absent is missed before anything else is looked at. -/
theorem firstRefusal?_of_absent {r : Http.Request} {route : Route} {name : String}
    (object : Check.object.refusal? r = none)
    (missing : route.required.find? (fun field => (said? r field).isNone) = some name) :
    firstRefusal? r route.checks = some (.missingField name) := by
  have absent : firstRefusal? r (route.required.map .present) = some (.missingField name) := by
    rw [firstRefusal?_present, missing]
    rfl
  rw [firstRefusal?] at absent ⊢
  rw [Route.checks, List.findSome?_cons, object, List.findSome?_append, absent, Option.some_or]

theorem requireFields_follows (read : readObject r = .ok o) (names : List String) :
    Follows r (names.map .present) (requireFields o names) := by
  have absent (name : String) : (!o.contains name) = (said? r name).isNone := by
    rw [Json.Object.contains, get?_of_readObject read, Option.isSome_map, Option.not_isSome]
  rw [Follows, firstRefusal?_present, requireFields]
  simp only [absent]
  cases names.find? fun name => (said? r name).isNone with
  | some name => rfl
  | none => exact ⟨(), rfl⟩

theorem stringField_follows (read : readObject r = .ok o) :
    Follows r [.text name] (stringField o name) := by
  apply follows_singleton
  rw [stringField, get?_of_readObject read, Check.refusal?]
  cases said? r name with
  | none => rfl
  | some j =>
    cases j with
    | string _ | number _ => exact ⟨_, rfl⟩
    | null | bool _ | array _ | object _ => rfl

theorem optionalString_follows (read : readObject r = .ok o) :
    Follows r [.optionalText name] (optionalString o name) := by
  apply follows_singleton
  rw [optionalString, get?_of_readObject read, Check.refusal?]
  cases said? r name with
  | none => exact ⟨_, rfl⟩
  | some j =>
    cases j with
    | null | string _ | number _ => exact ⟨_, rfl⟩
    | bool _ | array _ | object _ => rfl

theorem numberField_follows (read : readObject r = .ok o) :
    Follows r [.number name] (numberField o name) := by
  apply follows_singleton
  rw [numberField, get?_of_readObject read, Check.refusal?]
  cases said? r name with
  | none => rfl
  | some j =>
    cases j with
    | number _ => exact ⟨_, rfl⟩
    | null | bool _ | string _ | array _ | object _ => rfl

theorem textsOf_settles (items : List Json) :
    Settles (textsOf name (Json.canonicalItems items)) (items.findSome? (itemRefusal? name)) := by
  induction items with
  | nil => exact ⟨[], rfl⟩
  | cons j items ih =>
    rw [List.findSome?_cons, Json.canonicalItems]
    cases j with
    | string text =>
      simp only [itemRefusal?, Json.canonical, textsOf]
      cases failed : items.findSome? (itemRefusal? name) with
      | some refusal =>
        rw [failed] at ih
        rw [show textsOf name (Json.canonicalItems items) = .error refusal from ih]
        rfl
      | none =>
        rw [failed] at ih
        obtain ⟨texts, made⟩ := ih
        exact ⟨text :: texts, by rw [made]; rfl⟩
    | null | bool _ | number _ | array _ | object _ => rfl

theorem stringsField_follows (read : readObject r = .ok o) :
    Follows r [.texts name] (stringsField o name) := by
  apply follows_singleton
  rw [stringsField, get?_of_readObject read, Check.refusal?]
  cases said? r name with
  | none => rfl
  | some j =>
    cases j with
    | array items => exact textsOf_settles name items
    | null | bool _ | number _ | string _ | object _ => rfl

end Fields

section Routes

variable (defaults : Defaults) (draws : Draws) {r : Http.Request} {o : Json.Object}

theorem prepareBacktest_follows :
    Follows r Route.backtest.checks (prepareBacktest defaults draws r) := by
  refine .cons (readObject_follows r) fun o read => ?_
  refine .append (requireFields_follows read _) fun _ _ => ?_
  refine .cons (stringField_follows _ read) fun _ _ => ?_
  refine .cons (stringField_follows _ read) fun _ _ => ?_
  refine .cons (stringField_follows _ read) fun _ _ => ?_
  refine .cons (numberField_follows _ read) fun _ _ => ?_
  exact .map _ (stringsField_follows _ read)

theorem strategyFromObject_follows (read : readObject r = .ok o) :
    Follows r (Route.strategyUpload.required.map .present ++ Route.strategyUpload.kinds)
      (strategyFromObject draws o) := by
  refine .append (requireFields_follows read _) fun _ _ => ?_
  refine .cons (optionalString_follows _ read) fun _ _ => ?_
  refine .cons (optionalString_follows _ read) fun _ _ => ?_
  refine .cons (stringField_follows _ read) fun _ _ => ?_
  exact .map _ (optionalString_follows _ read)

theorem prepareStrategy_follows (json : r.bodyKind = .json) :
    Follows r Route.strategyUpload.checks (prepareStrategy defaults draws r) := by
  simp only [prepareStrategy, json]
  refine .cons (readObject_follows r) fun o read => ?_
  exact (strategyFromObject_follows draws read).map _

theorem prepareData_follows :
    Follows r Route.dataRequest.checks (prepareData defaults draws r) := by
  refine .cons (readObject_follows r) fun o read => ?_
  refine .append (requireFields_follows read _) fun _ _ => ?_
  refine .cons (stringField_follows _ read) fun _ _ => ?_
  refine .cons (stringField_follows _ read) fun _ _ => ?_
  refine .cons (stringField_follows _ read) fun _ _ => ?_
  exact .map _ (optionalString_follows _ read)

theorem prepareCustom_follows : Follows r Route.custom.checks (prepareCustom draws r) := by
  refine .cons (readObject_follows r) fun o read => ?_
  refine .append (requireFields_follows read _) fun _ _ => ?_
  refine .cons (stringField_follows _ read) fun key given => ?_
  have said : saidText? r "routing_key" = some key := saidText?_of_stringField read given
  dsimp only
  split
  · next blank =>
    exact follows_of_failed (by simpa [Check.refusal?, said, Text.blank] using blank)
  · next seen =>
    refine .of_passed (by simpa [Check.refusal?, said, Text.blank] using seen) ?_
    refine .cons (optionalString_follows _ read) fun _ _ => ?_
    exact .map _ (optionalString_follows _ read)

theorem fileFromObject_follows (read : readObject r = .ok o) :
    Follows r (Route.fileUpload.required.map .present ++ Route.fileUpload.kinds.dropLast)
      (fileFromObject o) := by
  refine .append (requireFields_follows read _) fun _ _ => ?_
  refine .cons (stringField_follows _ read) fun name given => ?_
  have said : saidText? r "file_name" = some name := saidText?_of_stringField read given
  dsimp only
  split
  · next empty =>
    exact follows_of_failed (by simp [Check.refusal?, said, empty])
  · next named =>
    refine .of_passed (by simp [Check.refusal?, said, named]) ?_
    refine .cons (stringField_follows _ read) fun _ _ => ?_
    refine .cons (optionalString_follows _ read) fun _ _ => ?_
    exact .map _ (optionalString_follows _ read)

theorem prepareFile_follows (json : r.bodyKind = .json) :
    Follows r Route.fileUpload.checks (prepareFile defaults draws r) := by
  -- The content is decoded by the template, behind everything that is read from the object.
  have order : Route.fileUpload.checks =
      .object :: ((Route.fileUpload.required.map .present ++ Route.fileUpload.kinds.dropLast) ++
        [.base64 "file_content"]) := rfl
  rw [order]
  simp only [prepareFile, json]
  refine .cons (readObject_follows r) fun o read => ?_
  refine .append (fileFromObject_follows read) fun q taken => ?_
  obtain ⟨_, said, _⟩ := fileFromObject_eq_ok read taken
  have filled : Follows r [.base64 "file_content"]
      ((Template.filePayload defaults draws.uploadTime q).mapError Refusal.template) := by
    apply follows_singleton
    simp only [Check.refusal?, said, Template.filePayload]
    cases Base64.decodeText q.fileContent with
    | error fault => rfl
    | ok bytes => exact ⟨_, rfl⟩
  exact filled.map _

/-- Whatever a route makes of an object, or refuses it with, follows the checks of the route. -/
theorem prepare_follows {route : Route} (json : route.takesForms = true → r.bodyKind = .json) :
    Follows r route.checks (route.prepare defaults draws r) := by
  cases route with
  | backtest => exact prepareBacktest_follows defaults draws
  | strategyUpload => exact prepareStrategy_follows defaults draws (json rfl)
  | dataRequest => exact prepareData_follows defaults draws
  | fileUpload => exact prepareFile_follows defaults draws (json rfl)
  | custom => exact prepareCustom_follows draws

end Routes

section Requests

variable {s : Settings} {draws : Draws} {r : Http.Request} {route : Route}

/-- Only the keys of custom requests are ever refused, and those go out as they were given. -/
theorem refusesKey_of_prepare {p : Prepared} (ready : route.prepare s.defaults draws r = .ok p) :
    refusesKey s route p.routingKey = false ↔
      ∀ key, saidText? r "routing_key" = some key → refusesKey s route key = false := by
  cases route with
  | custom =>
    have given : saidText? r "routing_key" = some p.routingKey := (prepareCustom_eq_ok ready).1
    rw [given]
    simp
  | backtest | strategyUpload | dataRequest | fileUpload => exact iff_of_true rfl fun _ _ => rfl

theorem handle_of_firstRefusal? {refusal : Refusal} (posted : r.method = "POST")
    (path : Route.ofPath? r.route = some route)
    (json : route.takesForms = true → r.bodyKind = .json)
    (failed : firstRefusal? r route.checks = some refusal) :
    refusal.status = 400 ∧ ∀ {σ ρ φ : Type} (c : Connector σ ρ φ) (broker : σ),
      handle s c draws r broker = (refusal.answer, broker) := by
  have follows := prepare_follows s.defaults draws json
  rw [Follows, failed] at follows
  refine ⟨prepare_faults s.defaults draws r route refusal follows, fun c broker => ?_⟩
  rw [handle_posted s posted path, publishAnswer_of_error follows]

theorem passes_iff_prepare (json : route.takesForms = true → r.bodyKind = .json) :
    Passes r route.checks ↔ ∃ p, route.prepare s.defaults draws r = .ok p := by
  have follows := prepare_follows s.defaults draws json
  rw [← firstRefusal?_eq_none_iff]
  cases failed : firstRefusal? r route.checks with
  | none =>
    rw [Follows, failed] at follows
    exact iff_of_true rfl follows
  | some refusal =>
    rw [Follows, failed] at follows
    have refused : route.prepare s.defaults draws r = .error refusal := follows
    simp [refused]

end Requests

/-- An object that is posted to a route is checked in the order of the checks of the route. The first
check that fails answers, with status 400 and before a broker is asked; so a field that is absent is told
of before any field of the wrong kind. A message is made of a request that passes them all, and of no
other one. It is sent, and its sending is what is answered then, unless its key is refused, which happens
to the keys of custom requests alone; a broker in memory holds it behind the others just where the
answer has status 200. -/
theorem first_failed_check_answers (s : Settings) (draws : Draws) {r : Http.Request} {route : Route}
    (posted : r.method = "POST") (path : Route.ofPath? r.route = some route)
    (json : route.takesForms = true → r.bodyKind = .json) :
    (∀ before check after refusal, route.checks = before ++ check :: after → Passes r before →
      check.refusal? r = some refusal →
      refusal.status = 400 ∧ ∀ {σ ρ φ : Type} (c : Connector σ ρ φ) (broker : σ),
        handle s c draws r broker = (refusal.answer, broker)) ∧
    (∀ name, Check.object.refusal? r = none →
      route.required.find? (fun field => (said? r field).isNone) = some name →
      ∀ {σ ρ φ : Type} (c : Connector σ ρ φ) (broker : σ),
        handle s c draws r broker = ((Refusal.missingField name).answer, broker)) ∧
    (Passes r route.checks ↔ ∃ p, route.prepare s.defaults draws r = .ok p) ∧
    (∀ p, route.prepare s.defaults draws r = .ok p →
      ∀ {σ ρ φ : Type} (c : Connector σ ρ φ) (broker : σ),
        handle s c draws r broker =
          if refusesKey s route p.routingKey then
            ((Refusal.unroutableKey p.routingKey).answer, broker)
          else
            (if c.sends (outgoing draws p) broker then jsonAnswer 200 p.answer else route.failure,
              (c.publishFresh (outgoing draws p) broker).2)) ∧
    (∀ p, route.prepare s.defaults draws r = .ok p → ∀ (topology : Topology) (broker : Memory),
      Memory.Records topology (outgoing draws p)
        ((handle s (Memory.connector topology) draws r broker).1.status = 200) broker
        (handle s (Memory.connector topology) draws r broker).2) ∧
    ((∃ m, Reaches s draws r route m) ↔ Passes r route.checks ∧
      ∀ key, saidText? r "routing_key" = some key → refusesKey s route key = false) := by
  have passes : Passes r route.checks ↔ ∃ p, route.prepare s.defaults draws r = .ok p :=
    passes_iff_prepare json
  refine ⟨fun before check after refusal order passed failed => ?_, fun name object missing => ?_,
    passes, fun p ready _ _ _ c broker => ?_,
    fun p ready topology broker => records_of_ready topology broker posted path ready, ?_⟩
  · apply handle_of_firstRefusal? posted path json
    rw [order]
    exact firstRefusal?_of_split passed failed
  · exact (handle_of_firstRefusal? posted path json (firstRefusal?_of_absent object missing)).2
  · rw [handle_posted s posted path]
    split
    · next refused => exact publishAnswer_of_refused ready refused broker
    · next kept => exact publishAnswer_of_allowed ready (Bool.eq_false_iff.2 kept) broker
  · rw [passes]
    constructor
    · rintro ⟨m, reaches⟩
      obtain ⟨p, ready, _, allowed⟩ := reaches.ready
      exact ⟨⟨p, ready⟩, (refusesKey_of_prepare ready).1 allowed⟩
    · rintro ⟨⟨p, ready⟩, allowed⟩
      exact ⟨_, posted, path, p, ready, rfl, (refusesKey_of_prepare ready).2 allowed⟩

/-- A backtest with a capital that is a text and an instrument that is none. Its end date may be
absent, or anything. -/
def wrongBacktest (endDate : String) : Http.Request where
  method := "POST"
  path := "/api/backtest"
  headers := []
  body := ("\x7b\"strategy_id\":7,\"start_date\":\"\"," ++ endDate ++
    "\"initial_capital\":\"1\",\"instruments\":[\"A\",1]\x7d").toUTF8

/-- An end date is missed although other fields are wrong, and `null` counts as present. -/
theorem wrong_backtest_answered :
    (wrongBacktest "").method = "POST" ∧
    Route.ofPath? (wrongBacktest "").route = some .backtest ∧
    (∀ {σ ρ φ : Type} (c : Connector σ ρ φ) (broker : σ),
      handle strictSettings c zeroDraws (wrongBacktest "") broker =
        (errorAnswer 400 "missing required field: end_date", broker)) ∧
    ∀ {σ ρ φ : Type} (c : Connector σ ρ φ) (broker : σ),
      handle strictSettings c zeroDraws (wrongBacktest "\"end_date\":null,") broker =
        (errorAnswer 400 "invalid field end_date: expected a string", broker) := by
  have known : Route.ofPath? (wrongBacktest "").route = some .backtest := by decide +kernel
  have path (endDate : String) : Route.ofPath? (wrongBacktest endDate).route = some .backtest :=
    known
  obtain ⟨_, missed, _⟩ := first_failed_check_answers strictSettings zeroDraws
    rfl (path "") nofun
  obtain ⟨told, _⟩ := first_failed_check_answers strictSettings zeroDraws
    rfl (path "\"end_date\":null,") nofun
  have passed : Passes (wrongBacktest "\"end_date\":null,") (Route.backtest.checks.take 8) := by
    unfold Passes
    decide +kernel
  refine ⟨rfl, known, missed "end_date" (by decide +kernel) (by decide +kernel), ?_⟩
  exact (told _ (.text "end_date") [.number "initial_capital", .texts "instruments"]
    (.invalidField "end_date" "expected a string") rfl passed (by decide +kernel)).2

end TopicGateway.Gateway
