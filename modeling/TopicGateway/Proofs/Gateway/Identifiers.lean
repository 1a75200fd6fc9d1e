import TopicGateway.Proofs.Gateway.Strategies

/-! The identifiers of the messages of a run: those that callers give, and those that are drawn where
they give none. Every draw serves one purpose, so as long as the draws do not repeat, no identifier
stands for two things. -/
namespace TopicGateway

namespace Uuid

theorem text_injective {u v : Uuid} (same : u.text = v.text) : u = v := by
  have read := parse_text u
  rw [same, parse_text v] at read
  exact (Except.ok.inj read).symm

theorem blank_text (u : Uuid) : Text.blank u.text = false := by
  refine Text.blank_eq_false_iff.2 ⟨'-', ?_, by decide⟩
  rw [text, String.toList_ofList, chars]
  exact List.mem_append_right _ (List.mem_cons_self ..)

end Uuid

namespace Gateway

open Message
open Broker (Memory Published Topology)

/-- The text that a request gives a route in a field: of a form where one is taken, or of an object. -/
def given? (route : Route) (r : Http.Request) (name : String) : Option String :=
  if route.takesForms = true ∧ r.bodyKind = .multipart then
    match readForm r with
    | .ok form => form.field name
    | .error _ => none
  else
    match readObject r with
    | .ok o => textField? o name
    | .error _ => none

/-- All texts that the fields of a request hold, whether a route reads them or not. -/
def texts (r : Http.Request) : List String :=
  (match readForm r with
    | .ok form => form.fields.map Prod.snd
    | .error _ => []) ++
  (match readObject r with
    | .ok o => o.members.filterMap fun member => asText member.2
    | .error _ => [])

theorem mem_of_lookup {α : Type} {members : List (String × α)} {name : String} {value : α}
    (found : members.lookup name = some value) : (name, value) ∈ members := by
  obtain ⟨before, after, rfl, _⟩ := List.lookup_eq_some_iff.1 found
  exact List.mem_append_right before (List.mem_cons_self ..)

theorem mem_texts {route : Route} {r : Http.Request} {name text : String}
    (given : given? route r name = some text) : text ∈ texts r := by
  rw [given?] at given
  rw [texts]
  split at given
  · split at given
    · exact List.mem_append_left _ (List.mem_map.2 ⟨_, mem_of_lookup given, rfl⟩)
    · cases given
  · split at given
    · obtain ⟨j, found, given⟩ := Option.bind_eq_some_iff.1 given
      exact List.mem_append_right _ (List.mem_filterMap.2 ⟨_, mem_of_lookup found, given⟩)
    · cases given

def identifierFields : List String :=
  ["strategy_id", "instrument_id", "related_id", "correlation_id"]

def supplied (r : Http.Request) : List String :=
  match Route.ofPath? r.route with
  | some route => identifierFields.filterMap (given? route r)
  | none => []

theorem supplied_subset_texts (r : Http.Request) : supplied r ⊆ texts r := by
  intro text member
  rw [supplied] at member
  split at member
  · obtain ⟨name, _, given⟩ := List.mem_filterMap.1 member
    exact mem_texts given
  · cases member

/-- The correlation id that a message keeps: only the custom route takes one, and no blank one. -/
def Route.correlation? (route : Route) (r : Http.Request) : Option String :=
  match route with
  | .custom => Text.nonBlank (given? .custom r "correlation_id")
  | _ => none

theorem Route.correlation?_visible {route : Route} {r : Http.Request} {text : String}
    (kept : route.correlation? r = some text) : Text.blank text = false := by
  cases route with
  | custom => exact (Text.nonBlank_eq_some_iff.1 kept).2
  | backtest | strategyUpload | dataRequest | fileUpload => cases kept

def Route.namesStrategy (route : Route) (r : Http.Request) : Bool :=
  route = .strategyUpload && (given? route r "strategy_id").isNone

section Routes

variable {defaults : Defaults} {draws : Draws} {r : Http.Request} {p : Prepared} {route : Route}

theorem Ready.messageId_eq (ready : Ready defaults draws r route p) :
    p.envelope.messageId = draws.stamp.messageId := by
  cases ready <;> rfl

theorem correlationId_of_prepareCustom (ready : prepareCustom draws r = .ok p) :
    p.envelope.correlationId =
      (Route.custom.correlation? r).getD draws.stamp.correlationId.text := by
  obtain ⟨_, payload, _, envelope, _⟩ := prepareCustom_eq_ok ready
  obtain ⟨o, object, _⟩ := bind_eq_ok ready
  have given : given? .custom r "correlation_id" = saidText? r "correlation_id" := by
    rw [given?, if_neg (by rintro ⟨⟨⟩, _⟩), object]
    exact textField?_of_readObject object _
  rw [Route.correlation?, given, envelope]
  rfl

theorem correlationId_of_prepare (ready : route.prepare defaults draws r = .ok p) :
    p.envelope.correlationId = (route.correlation? r).getD draws.stamp.correlationId.text := by
  cases route with
  | custom => exact correlationId_of_prepareCustom ready
  | backtest | strategyUpload | dataRequest | fileUpload =>
    cases ready_of_prepare ready
    rfl

theorem Strategy.Brings.given?_eq {u : Strategy} {fileName : String} (brings : u.Brings r fileName) :
    given? .strategyUpload r "strategy_id" = u.strategyId := by
  cases brings with
  | form inForm =>
    obtain ⟨form, read, _, strategyId, _⟩ := inForm.form
    rw [given?, if_pos ⟨rfl, inForm.kind⟩, read]
    exact strategyId
  | object inObject =>
    obtain ⟨members, hands⟩ := inObject.object
    obtain ⟨o, read, _⟩ := hands.readObject
    rw [given?, if_neg (by simp [hands.kind rfl]), read]
    exact (textField?_of_readObject read _).trans inObject.strategyId.asText_eq

end Routes

def uploadedId? : Payload → Option String
  | .strategyUpload q => some q.strategyId
  | _ => none

/-- A message that a request was made into, whether it goes out or not. -/
structure Made (s : Settings) where
  route : Route
  draws : Draws
  request : Http.Request
  message : Prepared
  posted : request.method = "POST"
  path : Route.ofPath? request.route = some route
  ready : route.prepare s.defaults draws request = .ok message

variable (s : Settings)

/-- The message that an event makes. -/
def made? : Event → Option (Made s)
  | .request draws r =>
    if posted : r.method = "POST" then
      match path : Route.ofPath? r.route with
      | some route =>
        match ready : route.prepare s.defaults draws r with
        | .ok p => some ⟨route, draws, r, p, posted, path, ready⟩
        | .error _ => none
      | none => none
    else none
  | .failOpen _ | .failPublish _ => none

def made (events : List Event) : List (Made s) :=
  events.filterMap (made? s)

def requests (events : List Event) : List Http.Request :=
  events.filterMap fun
    | .request _ r => some r
    | .failOpen _ | .failPublish _ => none

namespace Made

variable {s}

def envelope (m : Made s) : Envelope := m.message.envelope

def published (topology : Topology) (m : Made s) : Published :=
  Memory.record topology (outgoing m.draws m.message)

/-- What is drawn for a message, in the order of drawing: an identifier for a strategy without one, a
correlation id if none is kept, and the message id. -/
def drawn (m : Made s) : List Uuid :=
  (if m.route.namesStrategy m.request then [m.draws.strategyId] else []) ++
  (if (m.route.correlation? m.request).isNone then [m.draws.stamp.correlationId] else []) ++
  [m.draws.stamp.messageId]

/-- The identifiers in an envelope that no caller gave. -/
def generated (m : Made s) : List String :=
  (if m.route.namesStrategy m.request then (uploadedId? m.envelope.payload).toList else []) ++
  (if (m.route.correlation? m.request).isNone then [m.envelope.correlationId] else []) ++
  [m.envelope.messageId.text]

theorem messageId_eq (m : Made s) : m.envelope.messageId = m.draws.stamp.messageId :=
  (ready_of_prepare m.ready).messageId_eq

theorem correlationId_eq (m : Made s) : m.envelope.correlationId =
    (m.route.correlation? m.request).getD m.draws.stamp.correlationId.text :=
  correlationId_of_prepare m.ready

theorem uploadedId?_eq (m : Made s) (unnamed : m.route.namesStrategy m.request = true) :
    uploadedId? m.envelope.payload = some m.draws.strategyId.text := by
  obtain ⟨route, draws, r, p, posted, path, ready⟩ := m
  simp only [Route.namesStrategy, Bool.and_eq_true, decide_eq_true_eq,
    Option.isNone_iff_eq_none] at unnamed
  obtain ⟨rfl, none⟩ := unnamed
  obtain ⟨u, fileName, brings, rfl⟩ := Strategy.brings_of_prepare posted path ready
  rw [brings.given?_eq] at none
  have drawn : u.id draws = draws.strategyId.text := by rw [Strategy.id, none, Option.getD_none]
  exact congrArg some drawn

/-- Each identifier that no caller gave is the text of a draw of its own. -/
theorem generated_eq (m : Made s) : m.generated = m.drawn.map Uuid.text := by
  have strategy :
      (if m.route.namesStrategy m.request then (uploadedId? m.envelope.payload).toList else []) =
      (if m.route.namesStrategy m.request then [m.draws.strategyId] else []).map Uuid.text := by
    split
    · next unnamed =>
      rw [m.uploadedId?_eq unnamed]
      rfl
    · rfl
  have correlation :
      (if (m.route.correlation? m.request).isNone then [m.envelope.correlationId] else []) =
      (if (m.route.correlation? m.request).isNone then [m.draws.stamp.correlationId] else []).map
        Uuid.text := by
    rw [m.correlationId_eq]
    cases m.route.correlation? m.request <;> rfl
  rw [generated, drawn, List.map_append, List.map_append, strategy, correlation, m.messageId_eq]
  rfl

theorem blank_correlationId (m : Made s) : Text.blank m.envelope.correlationId = false := by
  rw [m.correlationId_eq]
  cases kept : m.route.correlation? m.request with
  | none => exact Uuid.blank_text _
  | some text => exact Route.correlation?_visible kept

theorem correlationId_of_given (m : Made s) (custom : m.route = .custom) {text : String}
    (given : given? .custom m.request "correlation_id" = some text)
    (visible : Text.blank text = false) : m.envelope.correlationId = text := by
  have kept : Text.nonBlank (some text) = some text := Text.nonBlank_eq_some_iff.2 ⟨rfl, visible⟩
  rw [m.correlationId_eq, custom, Route.correlation?, given, kept]
  rfl

end Made

section Runs

variable (topology : Topology)

theorem made?_of_reaches {draws : Draws} {r : Http.Request} {route : Route} {m : Broker.Outgoing}
    (reaches : Reaches s draws r route m) :
    ∃ made, made? s (.request draws r) = some made ∧ m = outgoing made.draws made.message := by
  obtain ⟨p, ready, rfl, _⟩ := reaches.ready
  refine ⟨⟨route, draws, r, p, reaches.posted, reaches.path, ready⟩, ?_, rfl⟩
  rw [made?, dif_pos reaches.posted]
  split
  · next found path =>
    cases path.symm.trans reaches.path
    split
    · next q prepared =>
      cases prepared.symm.trans ready
      rfl
    · next refusal prepared => cases prepared.symm.trans ready
  · next path => cases path.symm.trans reaches.path

/-- What an event publishes is the message that it makes, if it publishes at all. -/
theorem step_published (broker : Memory) (e : Event) :
    (step s topology broker e).published = broker.published ∨
    ∃ m, made? s e = some m ∧
      (step s topology broker e).published = broker.published ++ [m.published topology] := by
  cases e with
  | failOpen on | failPublish on => exact .inl rfl
  | request draws r =>
    rw [step, serve]
    rcases handle_broker_cases s (Memory.connector topology) draws r with
      away | ⟨route, m, reaches, brought⟩
    · rw [away]
      exact .inl rfl
    · rw [brought]
      obtain ⟨made, making, rfl⟩ := made?_of_reaches s reaches
      rcases Memory.publishFresh_published topology (outgoing made.draws made.message) broker with
        same | recorded
      · exact .inl same
      · exact .inr ⟨made, making, recorded⟩

/-- What a run publishes are messages that it makes, in the order in which they are made. -/
theorem run_published (events : List Event) (broker : Memory) :
    ∃ sent : List (Made s), sent.Sublist (made s events) ∧
      (run s topology broker events).published =
        broker.published ++ sent.map (Made.published topology) := by
  induction events generalizing broker with
  | nil => exact ⟨[], .slnil, (List.append_nil _).symm⟩
  | cons e events ih =>
    obtain ⟨sent, inside, published⟩ := ih (step s topology broker e)
    rw [run, published]
    rcases step_published s topology broker e with same | ⟨m, making, more⟩
    · rw [same]
      refine ⟨sent, inside.trans ?_, rfl⟩
      rw [made, made, List.filterMap_cons]
      split
      · exact .refl _
      · exact List.sublist_cons_self ..
    · rw [more]
      refine ⟨m :: sent, ?_, by rw [List.append_assoc]; rfl⟩
      rw [made, List.filterMap_cons, making]
      exact inside.cons_cons m

end Runs

/-- The generator of a run draws nothing twice, and nothing that a caller gives. -/
structure Fresh (events : List Event) : Prop where
  distinct : ((made s events).flatMap Made.drawn).Nodup
  unheard : ∀ u ∈ (made s events).flatMap Made.drawn, ∀ r ∈ requests events, u.text ∉ texts r

/-- All identifiers that a run generates, over all messages that it makes. -/
def generatedBy (events : List Event) : List String :=
  (made s events).flatMap Made.generated

theorem generatedBy_eq (events : List Event) :
    generatedBy s events = ((made s events).flatMap Made.drawn).map Uuid.text := by
  rw [generatedBy, List.map_flatMap]
  exact congrArg (List.flatMap · (made s events)) (funext Made.generated_eq)

/-- Over every run of a gateway whose generator repeats nothing, whatever fails on the broker in between:
no two of the generated identifiers are the same, so that no two messages share a message id, and none
of them is one that a caller gives. No correlation id is blank, and one that a caller gives a custom
message is kept as it is unless it is blank. The messages that are published are among those that were
made, in their order. -/
theorem identifiers_never_repeat {events : List Event} (fresh : Fresh s events) :
    (generatedBy s events).Nodup ∧
    ((made s events).map (·.envelope.messageId)).Nodup ∧
    (∀ identifier ∈ generatedBy s events, ∀ r ∈ requests events, identifier ∉ supplied r) ∧
    (∀ m ∈ made s events, Text.blank m.envelope.correlationId = false) ∧
    (∀ m ∈ made s events, m.route = .custom → ∀ text,
      given? .custom m.request "correlation_id" = some text → Text.blank text = false →
      m.envelope.correlationId = text) ∧
    ∀ (topology : Topology) (start : Memory), ∃ sent : List (Made s), sent.Sublist (made s events) ∧
      (run s topology start events).published =
        start.published ++ sent.map (Made.published topology) := by
  refine ⟨?_, ?_, fun identifier generated r asked => ?_, fun m _ => m.blank_correlationId,
    fun m _ custom text given visible => m.correlationId_of_given custom given visible,
    fun topology start => run_published s topology events start⟩
  · rw [generatedBy_eq]
    refine List.pairwise_map.2 (List.Pairwise.imp (fun differ same => ?_) fresh.distinct)
    exact differ (Uuid.text_injective same)
  · have apart := (List.pairwise_flatMap.1 fresh.distinct).2
    refine List.pairwise_map.2 (List.Pairwise.imp (fun {m n} differ same => ?_) apart)
    rw [m.messageId_eq, n.messageId_eq] at same
    refine differ _ ?_ _ ?_ same <;> exact List.mem_append_right _ (List.mem_singleton_self _)
  · rw [generatedBy_eq] at generated
    obtain ⟨u, drawn, rfl⟩ := List.mem_map.1 generated
    exact fun given => fresh.unheard u drawn r asked (supplied_subset_texts r given)

def digitDraws (strategy correlation message : Fin 16) : Draws :=
  let uuid (digit : Fin 16) : Uuid := ⟨List.replicate 32 digit, List.length_replicate⟩
  { zeroDraws with
    strategyId := uuid strategy
    stamp := ⟨uuid correlation, uuid message, Wire.epoch⟩ }

/-- A strategy without an identifier, then a custom message with a blank correlation id, which is not
published, and one with a correlation id between blanks. -/
theorem three_messages_never_repeat :
    let custom (draws : Draws) (correlation : String) : Event := .request draws
      ⟨"POST", "/api/message/custom", [], ("\x7b\"routing_key\":\"data.x\",\"payload\":null,
        \"correlation_id\":\"" ++ correlation ++ "\"\x7d").toUTF8⟩
    let strategy : Event := .request (digitDraws 1 2 3) ⟨"POST", "/api/strategy/upload",
      [("content-type", "application/json".toUTF8.data.toList)], "\x7b\"code\":\"pass\"\x7d".toUTF8⟩
    let events := [strategy, .failPublish true, custom (digitDraws 4 5 6) "  ", .failPublish false,
      custom (digitDraws 7 8 9) " c "]
    Fresh strictSettings events ∧ (generatedBy strictSettings events).Nodup ∧
    (generatedBy strictSettings events).length = 6 ∧
    (made strictSettings events).map (·.envelope.correlationId) =
      ["22222222-2222-2222-2222-222222222222", "55555555-5555-5555-5555-555555555555", " c "] ∧
    (run strictSettings .standard .fresh events).published.length = 2 := by
  intro custom strategy events
  have fresh : Fresh strictSettings events := by
    refine ⟨?_, ?_⟩
    · decide +kernel
    · decide +kernel
  exact ⟨fresh, (identifiers_never_repeat strictSettings fresh).1, by decide +kernel, by decide +kernel,
    by decide +kernel⟩

end Gateway

end TopicGateway
