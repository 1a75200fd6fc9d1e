import TopicGateway.Command.Run
import TopicGateway.Proofs.Gateway.Uploads
import TopicGateway.Proofs.Json.Entries

/-! A message that is published from the command line, and the same message in a request to the
gateway. Both ways refuse blank keys and nothing else before they turn to the connector, and both hand
it the same key, and envelopes that differ in nothing but what is drawn for them. -/
namespace TopicGateway

/-- What is read under a name from an object of entries is the value of the last one of that name. -/
theorem Json.Entry.member?_eq (entries : List Json.Entry) (name : String) :
    (Json.object (entries.map Json.Entry.member)).member? name =
      (entries.reverse.find? fun e => e.name = name).map Json.Entry.value := by
  rw [Json.member?, ← List.map_reverse]
  induction entries.reverse with
  | nil => rfl
  | cons e entries ih =>
    rw [List.map_cons, Json.Entry.member, List.lookup_cons]
    by_cases same : e.name = name
    · simp [same]
    · have other : (name == e.name) = false := beq_eq_false_iff_ne.2 (Ne.symm same)
      simp only [other, same, decide_false, List.find?_cons, ih]

namespace Command

open Broker (Access Connector Memory Outgoing Topology)
open Config (Environment Files)
open Gateway (Draws Hands Stands errorAnswer handle jsonAnswer)
open Message (Envelope Stamp)

/-- An option with its value in the same argument. -/
def option (name value : String) : String :=
  "--" ++ name ++ "=" ++ value

namespace Publication

def arguments (p : Publication) : List String :=
  "publish" :: option "routing-key" p.routingKey :: option "payload" p.payload ::
    ((p.messageType.map (option "message-type")).toList ++
      (p.correlationId.map (option "correlation-id")).toList)

/-- A request whose object has the members of the publication. Its payload is what the text of the
payload is read as alone. -/
structure CarriedBy (p : Publication) (r : Http.Request) : Prop where
  object : ∃ members payload, Hands .custom r members ∧
    Json.read (Text.Utf8.encode p.payload) = .ok payload ∧
    (Json.object members).member? "routing_key" = some (.string p.routingKey) ∧
    (Json.object members).member? "payload" = some payload ∧
    Stands ((Json.object members).member? "message_type") p.messageType ∧
    Stands ((Json.object members).member? "correlation_id") p.correlationId

/-- A request whose body is put together from texts, with the text of the payload among them. -/
structure WrittenIn (p : Publication) (r : Http.Request) : Prop where
  posted : r.method = "POST"
  path : Gateway.Route.ofPath? r.route = some .custom
  size : r.body.size ≤ Gateway.bodyLimit
  read : ∃ j, Json.read r.body.data.toList = .ok j
  object : ∃ entries payload, r.body.data.toList = Json.Entry.objectText entries ∧
    (entries.reverse.find? fun e => e.name = "payload") = some payload ∧
    payload.text = Text.Utf8.encode p.payload ∧
    (Json.object (entries.map Json.Entry.member)).member? "routing_key" =
      some (.string p.routingKey) ∧
    Stands ((Json.object (entries.map Json.Entry.member)).member? "message_type") p.messageType ∧
    Stands ((Json.object (entries.map Json.Entry.member)).member? "correlation_id") p.correlationId

end Publication

/-- Two envelopes that differ in nothing but what was drawn for them. A correlation id is drawn where
none was given, or a blank one. -/
structure Matching (given : Option String) (s₁ s₂ : Stamp) (e₁ e₂ : Envelope) : Prop where
  messageType : e₁.messageType = e₂.messageType
  payload : e₁.payload = e₂.payload
  messageId : e₁.messageId = s₁.messageId ∧ e₂.messageId = s₂.messageId
  timestamp : e₁.timestamp = s₁.timestamp ∧ e₂.timestamp = s₂.timestamp
  correlationId : match Text.nonBlank given with
    | some id => e₁.correlationId = id ∧ e₂.correlationId = id
    | none => e₁.correlationId = s₁.correlationId.text ∧ e₂.correlationId = s₂.correlationId.text

section Outcomes

variable {σ φ : Type}

/-- The program ends as the connector answers for this message, whose identifiers are printed if it
was published. -/
structure Printed (m : Outgoing) (answer : Except φ Bool × σ) (ended : Outcome × σ) : Prop where
  broker : ended.2 = answer.2
  sent : answer.1 = .ok true → ended.1 = .report ⟨[
    "message_id=" ++ m.envelope.messageId.text,
    "correlation_id=" ++ m.envelope.correlationId,
    "routing_key=" ++ m.routingKey], none⟩
  lost : answer.1 ≠ .ok true → ∃ failure, ended.1 = .report ⟨[], some failure⟩

/-- The gateway answers as the connector does for this message, whose identifiers are in the answer if
it was published. -/
structure Answered (m : Outgoing) (answer : Except φ Bool × σ) (served : Http.Answer × σ) : Prop where
  broker : served.2 = answer.2
  sent : answer.1 = .ok true → served.1 = jsonAnswer 200 (.object [
    ("message", .string "custom message sent"),
    ("message_id", .string m.envelope.messageId.text),
    ("routing_key", .string m.routingKey),
    ("correlation_id", .string m.envelope.correlationId)])
  lost : answer.1 ≠ .ok true → served.1 = errorAnswer 500 "failed to send custom message"

theorem Printed.records {topology : Topology} {m : Outgoing} {broker : Memory}
    {ended : Outcome × Memory}
    (printed : Printed m ((Memory.connector topology).publishFresh m broker) ended) :
    Memory.Records topology m (∃ lines, ended.1 = .report ⟨lines, none⟩) broker ended.2 := by
  rw [printed.broker]
  refine (Memory.records_publishFresh topology m broker).congr ⟨fun sent => ?_, fun told => ?_⟩
  · exact ⟨_, printed.sent sent⟩
  · refine Classical.byContradiction fun lost => ?_
    obtain ⟨failure, failed⟩ := printed.lost lost
    obtain ⟨lines, told⟩ := told
    cases failed.symm.trans told

theorem Answered.records {topology : Topology} {m : Outgoing} {broker : Memory}
    {served : Http.Answer × Memory}
    (answered : Answered m ((Memory.connector topology).publishFresh m broker) served) :
    Memory.Records topology m (served.1.status = 200) broker served.2 := by
  rw [answered.broker]
  refine (Memory.records_publishFresh topology m broker).congr ⟨fun sent => ?_, fun told => ?_⟩
  · rw [answered.sent sent]
    rfl
  · refine Classical.byContradiction fun lost => ?_
    rw [answered.lost lost] at told
    cases told

end Outcomes

namespace Arguments

theorem splitEquals_append {name : List Char} (plain : '=' ∉ name) (value : List Char) :
    splitEquals (name ++ '=' :: value) = (String.ofList name, some (String.ofList value)) := by
  have before : ∀ c ∈ name, decide (c ≠ '=') = true := by
    intro c member
    apply decide_eq_true
    rintro rfl
    exact plain member
  rw [splitEquals, List.dropWhile_append_of_pos before, List.takeWhile_append_of_pos before]
  simp

theorem form_option {name : String} (plain : '=' ∉ name.toList) (value : String) :
    form (option name value) = .long name (some value) := by
  have split := splitEquals_append plain value.toList
  rw [String.ofList_toList, String.ofList_toList] at split
  obtain ⟨c, cs, some⟩ : ∃ c cs, name.toList ++ '=' :: value.toList = c :: cs :=
    List.exists_cons_of_ne_nil (by simp)
  have letters : (option name value).toList = '-' :: '-' :: c :: cs := by
    simp [option, ← some]
  rw [some] at split
  simp only [form, letters, split]

theorem readOptions_option {o : Options} {topic : Topic} {g : Given} {name : String}
    (plain : '=' ∉ name.toList) (known : o.valued.contains name = true) (new : g.has name = false)
    (value : String) (rest : List String) :
    readOptions o topic none g (option name value :: rest) =
      readOptions o topic none { g with values := (name, value) :: g.values } rest := by
  simp only [readOptions, form_option plain, new, known, Bool.false_eq_true, ↓reduceIte]

theorem readOptions_optional {o : Options} {topic : Topic} {g : Given} {name : String}
    (plain : '=' ∉ name.toList) (known : o.valued.contains name = true) (new : g.has name = false)
    (value : Option String) (rest : List String) :
    readOptions o topic none g ((value.map (option name)).toList ++ rest) =
      readOptions o topic none
        { g with values := (value.map fun value => (name, value)).toList ++ g.values } rest := by
  cases value with
  | none => rfl
  | some value => exact readOptions_option plain known new value rest

theorem readOptions_last {o : Options} {topic : Topic} {g : Given} {name : String}
    (plain : '=' ∉ name.toList) (known : o.valued.contains name = true) (new : g.has name = false)
    (value : Option String) :
    readOptions o topic none g (value.map (option name)).toList =
      .ok { g with values := (value.map fun value => (name, value)).toList ++ g.values } := by
  have read : readOptions o topic none g ((value.map (option name)).toList ++ []) = _ :=
    readOptions_optional plain known new value []
  rw [List.append_nil] at read
  rw [read, readOptions]

end Arguments

theorem Publication.parse_arguments (p : Publication) :
    Arguments.parse p.arguments = .ok (.publish p) := by
  obtain ⟨key, payload, type, correlation⟩ := p
  have command : Arguments.parse (arguments ⟨key, payload, type, correlation⟩) =
      (Arguments.publication (arguments ⟨key, payload, type, correlation⟩).tail).map .publish := rfl
  have new : Arguments.Given.has ⟨(type.map fun value => ("message-type", value)).toList ++
      [("payload", payload), ("routing-key", key)], []⟩ "correlation-id" = false := by
    cases type <;> rfl
  have read : Arguments.readOptions
      ⟨["routing-key", "payload", "message-type", "correlation-id"], []⟩ .publish none .none
      (arguments ⟨key, payload, type, correlation⟩).tail =
        .ok ⟨(correlation.map fun value => ("correlation-id", value)).toList ++
          ((type.map fun value => ("message-type", value)).toList ++
            [("payload", payload), ("routing-key", key)]), []⟩ :=
    (Arguments.readOptions_option (by decide) rfl rfl key _).trans <|
      (Arguments.readOptions_option (by decide) rfl rfl payload _).trans <|
        (Arguments.readOptions_optional (by decide) rfl rfl type _).trans <|
          Arguments.readOptions_last (by decide) rfl new correlation
  rw [command, Arguments.publication, read]
  cases type <;> cases correlation <;> rfl

theorem Publication.WrittenIn.carriedBy {p : Publication} {r : Http.Request}
    (written : p.WrittenIn r) : p.CarriedBy r := by
  obtain ⟨j, read⟩ := written.read
  obtain ⟨entries, payload, body, found, text, key, type, correlation⟩ := written.object
  have whole := read
  rw [body] at whole
  obtain rfl := Json.Entry.read_objectText whole
  refine ⟨_, payload.value, ⟨written.posted, written.path, nofun, written.size, read⟩, ?_, key, ?_, type,
    correlation⟩
  · rw [← text]
    exact payload.alone
  · rw [Json.Entry.member?_eq, found]
    rfl

section Program

variable {σ ρ : Type} {connect : Access → Topology → Connector σ ρ} {arguments : List String}
variable {env : Environment} {files : Files} {cfg : Config.Settings} {p : Publication} {stamp : Stamp}

theorem run_publish (asked : Arguments.parse arguments = .ok (.publish p))
    (resolved : Config.resolve env files = .ok cfg) (sentAt : Int) (broker : σ) :
    run connect arguments env files stamp sentAt broker =
      (.report (publish connect cfg.broker p stamp sentAt broker).1,
        (publish connect cfg.broker p stamp sentAt broker).2) := by
  simp only [run, asked, resolved, serve]

theorem envelope_of_blank (blank : Text.blank p.routingKey = true) :
    p.envelope stamp = .error ⟨"--routing-key must not be empty", []⟩ := by
  rw [Publication.envelope, if_pos blank]

theorem envelope_of_read (seen : Text.blank p.routingKey = false) {payload : Json}
    (read : Json.read (Text.Utf8.encode p.payload) = .ok payload) :
    p.envelope stamp =
      .ok (Message.Template.custom stamp p.messageType payload.value p.correlationId) := by
  simp only [Publication.envelope, seen, read, Bool.false_eq_true, ↓reduceIte]

theorem printed_of_envelope {e : Envelope} (asked : Arguments.parse arguments = .ok (.publish p))
    (resolved : Config.resolve env files = .ok cfg) (made : p.envelope stamp = .ok e) (sentAt : Int)
    (broker : σ) :
    let m : Outgoing := ⟨p.routingKey, e, sentAt⟩
    Printed m ((connect cfg.broker .standard).publishFresh m broker)
      (run connect arguments env files stamp sentAt broker) := by
  intro m
  rw [run_publish asked resolved]
  simp only [publish, made]
  rcases answered : (connect cfg.broker .standard).publishFresh m broker with ⟨_ | published, after⟩
  · exact ⟨rfl, nofun, fun _ => ⟨_, rfl⟩⟩
  · cases published with
    | false => exact ⟨rfl, nofun, fun _ => ⟨_, rfl⟩⟩
    | true => exact ⟨rfl, fun _ => rfl, fun lost => absurd rfl lost⟩

end Program

section Service

variable {p : Publication} {r : Http.Request} (draws : Draws)

/-- The envelope that is made of a publication, with the answer it is told in. -/
def Publication.prepared (p : Publication) (e : Envelope) : Gateway.Prepared where
  routingKey := p.routingKey
  envelope := e
  answer := .object [
    ("message", .string "custom message sent"),
    ("message_id", .string e.messageId.text),
    ("routing_key", .string p.routingKey),
    ("correlation_id", .string e.correlationId)]

/-- What the gateway makes of a request that carries a publication. -/
theorem Publication.CarriedBy.prepare (carried : p.CarriedBy r) :
    ∃ payload, Json.read (Text.Utf8.encode p.payload) = .ok payload ∧
      ∀ defaults, Gateway.Route.custom.prepare defaults draws r =
        if Text.blank p.routingKey then .error (.invalidField "routing_key" "must not be empty")
        else .ok (p.prepared
          (Message.Template.custom draws.stamp p.messageType payload.value p.correlationId)) := by
  obtain ⟨members, payload, hands, read, key, value, type, correlation⟩ := carried.object
  obtain ⟨o, whole, found⟩ := hands.readObject
  have key : o.get? "routing_key" = some (.string p.routingKey) := by
    rw [found, key]
    rfl
  have value : o.get? "payload" = some payload.canonical := by
    rw [found, value]
    rfl
  have type : Stands (o.get? "message_type") p.messageType := by
    rw [found]
    exact type.canonical
  have correlation : Stands (o.get? "correlation_id") p.correlationId := by
    rw [found]
    exact correlation.canonical
  have present : Gateway.requireFields o ["routing_key", "payload"] = .ok () := by
    apply Gateway.requireFields_of_present
    simp [key, value]
  refine ⟨payload, read, fun defaults => ?_⟩
  simp only [Gateway.Route.prepare, Gateway.prepareCustom, whole, present,
    Gateway.stringField_of_string key, Gateway.optionalString_of_stands type,
    Gateway.optionalString_of_stands correlation, value, bind, Except.bind, Option.getD_some,
    Json.value_canonical]
  cases Text.blank p.routingKey <;> rfl

variable {cfg : Config.Settings}

theorem Publication.CarriedBy.handle_eq (carried : p.CarriedBy r) {σ ρ φ : Type}
    (s : Gateway.Settings) (c : Connector σ ρ φ) (broker : σ) :
    handle s c draws r broker = Gateway.publishAnswer s c draws .custom r broker := by
  obtain ⟨members, payload, hands, _⟩ := carried.object
  exact Gateway.handle_posted s hands.posted hands.path c draws broker

theorem Publication.CarriedBy.refused (carried : p.CarriedBy r)
    (blank : Text.blank p.routingKey = true) {σ ρ φ : Type} (s : Gateway.Settings)
    (c : Connector σ ρ φ) (broker : σ) :
    handle s c draws r broker =
      (errorAnswer 400 "invalid field routing_key: must not be empty", broker) := by
  obtain ⟨payload, _, prepared⟩ := carried.prepare draws
  simp only [blank, ↓reduceIte] at prepared
  rw [carried.handle_eq, Gateway.publishAnswer_of_error (prepared s.defaults)]
  rfl

theorem Publication.CarriedBy.answered (carried : p.CarriedBy r) (warns : cfg.policy = .warn)
    (seen : Text.blank p.routingKey = false) {payload : Json}
    (read : Json.read (Text.Utf8.encode p.payload) = .ok payload) {e : Envelope}
    (made : Message.Template.custom draws.stamp p.messageType payload.value p.correlationId = e)
    {σ ρ φ : Type} (c : Connector σ ρ φ) (broker : σ) :
    Answered ⟨p.routingKey, e, draws.sentAt⟩
      (c.publishFresh ⟨p.routingKey, e, draws.sentAt⟩ broker)
      (handle (.ofConfig cfg) c draws r broker) := by
  obtain ⟨other, read', prepared⟩ := carried.prepare draws
  obtain rfl : payload = other := Except.ok.inj (read.symm.trans read')
  simp only [seen, made, Bool.false_eq_true, ↓reduceIte] at prepared
  have allowed : Gateway.refusesKey (.ofConfig cfg) .custom p.routingKey = false := by
    simp [Gateway.refusesKey, Gateway.Settings.ofConfig, warns]
  rw [carried.handle_eq, Gateway.publishAnswer_of_allowed (prepared _) allowed]
  refine ⟨rfl, fun sent => if_pos ?_, fun lost => if_neg ?_⟩
  · exact Connector.sends_eq_true_iff.2 sent
  · exact mt Connector.sends_eq_true_iff.1 lost

end Service

/-- The same message from the command line and in a request. With any configuration that is accepted
and lets unbound keys pass, the program and the gateway decide alike: both refuse a key that is nothing
but white space, without the connector, and no other. For every other key each hands the connector one
message under that key; the envelopes match, and the identifiers that are told are those of the
envelope, from the program only if it was published. A broker in memory then holds each message, behind
those that were there before, if the program reports no failure and the gateway answers with status
200, and only then. Every publication can be asked for on the command line, and a request carries it
whose body holds the payload as it stands there. -/
theorem program_and_gateway_agree {env : Environment} {files : Files} {cfg : Config.Settings}
    (resolved : Config.resolve env files = .ok cfg) (warns : cfg.policy = .warn) (p : Publication) :
    Arguments.parse p.arguments = .ok (.publish p) ∧
    (∀ r, p.WrittenIn r → p.CarriedBy r) ∧
    ∀ arguments r, Arguments.parse arguments = .ok (.publish p) → p.CarriedBy r →
      ∀ (stamp : Stamp) (sentAt : Int) (draws : Draws),
        ((∀ c ∈ p.routingKey.toList, Text.isWhite c = true) →
          ∀ {σ ρ : Type} (connect : Access → Topology → Connector σ ρ) (broker : σ),
            run connect arguments env files stamp sentAt broker =
              (.report ⟨[], some ⟨"--routing-key must not be empty", []⟩⟩, broker) ∧
            handle (.ofConfig cfg) (connect cfg.broker .standard) draws r broker =
              (errorAnswer 400 "invalid field routing_key: must not be empty", broker)) ∧
        ((∃ c ∈ p.routingKey.toList, Text.isWhite c = false) →
          ∃ first second : Outgoing,
            first.routingKey = p.routingKey ∧ second.routingKey = p.routingKey ∧
            Matching p.correlationId stamp draws.stamp first.envelope second.envelope ∧
            (∀ {σ ρ : Type} (connect : Access → Topology → Connector σ ρ) (broker : σ),
              let c := connect cfg.broker .standard
              Printed first (c.publishFresh first broker)
                (run connect arguments env files stamp sentAt broker) ∧
              Answered second (c.publishFresh second broker)
                (handle (.ofConfig cfg) c draws r broker)) ∧
            ∀ broker : Memory,
              let ended := run (fun _ => Memory.connector) arguments env files stamp sentAt broker
              let served := handle (.ofConfig cfg) (Memory.connector .standard) draws r broker
              Memory.Records .standard first (∃ lines, ended.1 = .report ⟨lines, none⟩) broker
                ended.2 ∧
              Memory.Records .standard second (served.1.status = 200) broker served.2) := by
  refine ⟨p.parse_arguments, fun r written => written.carriedBy,
    fun arguments r asked carried stamp sentAt draws => ⟨fun white => ?_, fun seen => ?_⟩⟩
  · have blank : Text.blank p.routingKey = true := List.all_eq_true.2 white
    intro σ ρ connect broker
    refine ⟨?_, carried.refused draws blank _ _ broker⟩
    rw [run_publish asked resolved, publish, envelope_of_blank blank]
  · have seen : Text.blank p.routingKey = false := Text.blank_eq_false_iff.2 seen
    obtain ⟨payload, read, _⟩ := carried.prepare draws
    have made : p.envelope stamp =
        .ok (Message.Template.custom stamp p.messageType payload.value p.correlationId) :=
      envelope_of_read seen read
    have serves {σ ρ φ : Type} (c : Connector σ ρ φ) (broker : σ) :=
      carried.answered draws warns seen read rfl c broker
    refine ⟨⟨p.routingKey, _, sentAt⟩, ⟨p.routingKey, _, draws.sentAt⟩, rfl, rfl,
      ?_, fun _ broker => ⟨printed_of_envelope asked resolved made sentAt broker, serves _ broker⟩,
      fun broker => ⟨?_, ?_⟩⟩
    · refine ⟨rfl, rfl, ⟨rfl, rfl⟩, ⟨rfl, rfl⟩, ?_⟩
      simp only [Message.Template.custom, Envelope.build]
      cases Text.nonBlank p.correlationId with
      | some id => exact ⟨rfl, rfl⟩
      | none => exact ⟨rfl, rfl⟩
    · have printed : Printed _ _ (run (fun _ => Memory.connector) arguments env files stamp sentAt broker) :=
        printed_of_envelope asked resolved made sentAt broker
      exact printed.records
    · exact (serves (Memory.connector .standard) broker).records

/-- An order under a key that no queue is bound to, without a message type. -/
def strayOrder : Publication where
  routingKey := "orders.new"
  payload := "[1, \x7b\"a\":null\x7d]"
  messageType := none
  correlationId := some "c-1"

/-- The order in a request that has `null` for the message type. -/
def strayOrderRequest : Http.Request where
  method := "POST"
  path := "/api/message/custom"
  headers := []
  body := ⟨(Text.Utf8.encode ("\x7b\"routing_key\":\"orders.new\", \"message_type\": null, " ++
    "\"payload\": [1, \x7b\"a\":null\x7d], \"correlation_id\": \"c-1\"\x7d")).toArray⟩

def strayOrderEntries : List Json.Entry := [
  .ofText [] "routing_key" [] (Text.Utf8.encode "\"orders.new\"") (.string "orders.new")
    (by decide +kernel) rfl,
  .ofText [0x20] "message_type" [0x20] (Text.Utf8.encode "null") .null (by decide +kernel) rfl,
  .ofText [0x20] "payload" [0x20] (Text.Utf8.encode strayOrder.payload)
    (.array [.number (.ofNat 1 (by decide)), .object [("a", .null)]]) (by decide +kernel) rfl,
  .ofText [0x20] "correlation_id" [0x20] (Text.Utf8.encode "\"c-1\"") (.string "c-1")
    (by decide +kernel) rfl]

theorem strayOrder_written : strayOrder.WrittenIn strayOrderRequest := by
  have body : strayOrderRequest.body.data.toList = Json.Entry.objectText strayOrderEntries := by
    decide +kernel
  have read : Json.read strayOrderRequest.body.data.toList =
      .ok (.object (strayOrderEntries.map Json.Entry.member)) := by decide +kernel
  exact ⟨rfl, by decide +kernel, by decide +kernel, ⟨_, read⟩, strayOrderEntries, _, body, rfl, rfl,
    by decide +kernel, .inr rfl, rfl⟩

/-- The stray order is published both ways, under the standard configuration. -/
theorem stray_order_agrees :
    let env : Environment := fun _ => none
    let files : Files := fun _ => .error .missing
    let connect := fun (_ : Access) => Broker.Memory.connector
    let arguments := ["publish", "--payload", strayOrder.payload, "--routing-key=orders.new",
      "--correlation-id", "c-1"]
    Config.resolve env files = .ok .standard ∧ Config.Settings.standard.policy = .warn ∧
    Arguments.parse arguments = .ok (.publish strayOrder) ∧
    strayOrder.WrittenIn strayOrderRequest ∧
    ∀ (stamp : Stamp) (draws : Draws),
      (run connect arguments env files stamp 0 .fresh).1 = .report ⟨[
        "message_id=" ++ stamp.messageId.text, "correlation_id=c-1", "routing_key=orders.new"], none⟩ ∧
      (handle (.ofConfig .standard) (connect .standard .standard) draws strayOrderRequest .fresh).1 =
        jsonAnswer 200 (.object [
          ("message", .string "custom message sent"),
          ("message_id", .string draws.stamp.messageId.text),
          ("routing_key", .string "orders.new"),
          ("correlation_id", .string "c-1")]) ∧
      (∃ entry, (run connect arguments env files stamp 0 .fresh).2.published = [entry] ∧
        entry.routingKey = "orders.new" ∧ entry.properties.correlationId = "c-1") ∧
      ∃ entry, (handle (.ofConfig .standard) (connect .standard .standard) draws strayOrderRequest
          .fresh).2.published = [entry] ∧
        entry.routingKey = "orders.new" ∧ entry.properties.correlationId = "c-1" := by
  intro env files connect arguments
  have resolved : Config.resolve env files = .ok .standard := by decide +kernel
  have asked : Arguments.parse arguments = .ok (.publish strayOrder) := by decide +kernel
  refine ⟨resolved, rfl, asked, strayOrder_written, fun stamp draws => ?_⟩
  obtain ⟨_, carries, agree⟩ := program_and_gateway_agree resolved rfl strayOrder
  obtain ⟨_, sends⟩ :=
    agree arguments strayOrderRequest asked (carries _ strayOrder_written) stamp 0 draws
  obtain ⟨first, second, key, key', matching, ends, records⟩ := sends ⟨'o', by decide, by decide⟩
  obtain ⟨printed, answered⟩ := ends connect .fresh
  obtain ⟨kept, kept'⟩ := records .fresh
  have drawn : Text.nonBlank strayOrder.correlationId = some "c-1" := by decide
  obtain ⟨id, id'⟩ := matching.messageId
  have correlation := matching.correlationId
  rw [drawn] at correlation
  obtain ⟨given, given'⟩ := correlation
  have told := printed.sent rfl
  have served := answered.sent rfl
  rw [key, id, given] at told
  rw [key', id', given'] at served
  obtain ⟨entry, recorded, holds⟩ := kept.added ⟨_, told⟩
  obtain ⟨entry', recorded', holds'⟩ := kept'.added (by rw [served]; rfl)
  refine ⟨told, served, ⟨entry, recorded, ?_, ?_⟩, entry', recorded', ?_, ?_⟩
  · rw [holds.routingKey, key]
    rfl
  · rw [holds.properties, given]
  · rw [holds'.routingKey, key']
    rfl
  · rw [holds'.properties, given']

end Command

end TopicGateway
