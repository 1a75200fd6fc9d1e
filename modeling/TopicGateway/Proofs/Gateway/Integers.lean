import TopicGateway.Proofs.Gateway.Contents
import TopicGateway.Proofs.Gateway.Custom
import TopicGateway.Proofs.Gateway.Documented
import TopicGateway.Proofs.Gateway.Strategies
import TopicGateway.Proofs.Json.Places

/-! Where a message has what the fields of its request say, and that whole numbers come there digit by
digit. A capital or a number inside a payload is copied as it is held, and it is held as an integer; in
the place of a text it becomes the text of its digits. -/
namespace TopicGateway.Gateway

open Message
open Broker (Connector Memory Outgoing Topology)
open Json (Path)

/-- Where a message has the text of a field of its request. -/
inductive Place where
  | key
  | body (path : Path)

def Place.payload (name : String) : Place :=
  .body [.member "payload", .member name]

def Place.config (name : String) : Place :=
  .body [.member "payload", .member "config", .member name]

def Place.Has (text : String) (m : Outgoing) : Place → Prop
  | .key => m.routingKey = text
  | .body path => m.envelope.json.at? path = some (.string text)

/-- The fields of a route that are texts, with the places of these texts. -/
def Route.textPlaces : Route → List (String × Place)
  | .backtest => [("strategy_id", .payload "strategy_id"), ("start_date", .config "start_date"),
      ("end_date", .config "end_date")]
  | .strategyUpload => [("strategy_id", .payload "strategy_id"), ("strategy_name", .payload "name"),
      ("code", .payload "code"), ("version", .payload "version")]
  | .dataRequest => [("instrument_id", .payload "instrument_id"), ("start_date", .payload "start_date"),
      ("end_date", .payload "end_date"), ("frequency", .payload "frequency")]
  | .fileUpload => [("file_name", .payload "file_name"), ("file_content", .payload "file_content"),
      ("file_type", .payload "file_type"), ("related_id", .payload "related_id")]
  | .custom => [("routing_key", .key), ("message_type", .body [.member "message_type"]),
      ("correlation_id", .body [.member "correlation_id"])]

/-- What a message has at the second path is copied from the first one in its request. -/
inductive Route.Copies : Route → Path → Path → Prop
  | capital : Copies .backtest [.member "initial_capital"]
      [.member "payload", .member "config", .member "initial_capital"]
  | payload (path : Path) : Copies .custom (.member "payload" :: path) (.member "payload" :: path)

section Preparing

variable {defaults : Defaults} {draws : Draws} {r : Http.Request} {p : Prepared}

theorem said_of_prepareStrategy (kind : r.bodyKind = .json)
    (ready : prepareStrategy defaults draws r = .ok p) :
    ∃ u : Strategy, saidText? r "code" = some u.code ∧ saidText? r "strategy_id" = u.strategyId ∧
      saidText? r "strategy_name" = u.name ∧ saidText? r "version" = u.version ∧
      p.envelope = Template.strategyUpload defaults draws.stamp (u.request "" draws) := by
  obtain ⟨q, ⟨other, _⟩ | ⟨_, o, object, taken⟩, rfl⟩ := prepareStrategy_eq_ok ready
  · cases kind.symm.trans other
  · obtain ⟨u, code, strategyId, name, version, rfl⟩ :=
      (Strategy.strategyFromObject_eq_ok_iff object).1 taken
    exact ⟨u, code, strategyId.asText_eq, name.asText_eq, version.asText_eq, rfl⟩

/-- A path that starts with the payload goes on inside the payload. -/
theorem at?_payload (e : Envelope) (path : Path) :
    e.json.at? (.member "payload" :: path) = e.payload.json.at? path := by
  have payload : e.json.member? "payload" = some e.payload.json := rfl
  rw [Json.at?_member, payload, Option.bind_some]

theorem Place.has_payload {path : Path} {text : String} {e : Envelope} (envelope : p.envelope = e)
    (found : e.payload.json.at? path = some (.string text)) :
    (Place.body (.member "payload" :: path)).Has text (outgoing draws p) := by
  rw [Place.Has, outgoing, at?_payload, envelope, found]

/-- A text that can be seen stands in its place. -/
theorem has_of_said {route : Route} {name text : String} {place : Place}
    (kind : route.takesForms = true → r.bodyKind = .json)
    (ready : route.prepare defaults draws r = .ok p) (listed : (name, place) ∈ route.textPlaces)
    (said : saidText? r name = some text) (visible : Text.blank text = false) :
    place.Has text (outgoing draws p) := by
  cases route with
  | backtest =>
    obtain ⟨q, strategyId, startDate, endDate, _, envelope, _⟩ := prepareBacktest_eq_ok ready
    simp only [Route.textPlaces, List.mem_cons, Prod.mk.injEq, List.not_mem_nil, or_false] at listed
    rcases listed with ⟨rfl, rfl⟩ | ⟨rfl, rfl⟩ | ⟨rfl, rfl⟩
    · cases said.symm.trans strategyId
      exact Place.has_payload envelope rfl
    · cases said.symm.trans startDate
      exact Place.has_payload envelope rfl
    · cases said.symm.trans endDate
      exact Place.has_payload envelope rfl
  | strategyUpload =>
    obtain ⟨⟨_, _, _, _⟩, code, strategyId, name, version, envelope⟩ :=
      said_of_prepareStrategy (kind rfl) ready
    simp only [Route.textPlaces, List.mem_cons, Prod.mk.injEq, List.not_mem_nil, or_false] at listed
    rcases listed with ⟨rfl, rfl⟩ | ⟨rfl, rfl⟩ | ⟨rfl, rfl⟩ | ⟨rfl, rfl⟩
    · cases said.symm.trans strategyId
      exact Place.has_payload envelope rfl
    · cases said.symm.trans name
      exact Place.has_payload envelope rfl
    · cases said.symm.trans code
      exact Place.has_payload envelope rfl
    · cases said.symm.trans version
      exact Place.has_payload envelope rfl
  | dataRequest =>
    obtain ⟨⟨_, _, _, _⟩, instrumentId, startDate, endDate, frequency, envelope, _⟩ :=
      prepareData_eq_ok ready
    simp only [Route.textPlaces, List.mem_cons, Prod.mk.injEq, List.not_mem_nil, or_false] at listed
    rcases listed with ⟨rfl, rfl⟩ | ⟨rfl, rfl⟩ | ⟨rfl, rfl⟩ | ⟨rfl, rfl⟩
    · cases said.symm.trans instrumentId
      exact Place.has_payload envelope rfl
    · cases said.symm.trans startDate
      exact Place.has_payload envelope rfl
    · cases said.symm.trans endDate
      exact Place.has_payload envelope rfl
    · cases said.symm.trans frequency
      exact Place.has_payload envelope rfl
  | fileUpload =>
    obtain ⟨⟨_, _, _, _⟩, file, reads, filled, envelope, _⟩ := prepareFile_eq_ok ready
    obtain ⟨o, object, taken⟩ := reads (kind rfl)
    obtain ⟨fileName, fileContent, fileType, relatedId⟩ := fileFromObject_eq_ok object taken
    obtain ⟨bytes, _, rfl⟩ := (Template.filePayload_eq_ok_iff _ _).1 filled
    simp only [Route.textPlaces, List.mem_cons, Prod.mk.injEq, List.not_mem_nil, or_false] at listed
    rcases listed with ⟨rfl, rfl⟩ | ⟨rfl, rfl⟩ | ⟨rfl, rfl⟩ | ⟨rfl, rfl⟩
    · cases said.symm.trans fileName
      exact Place.has_payload envelope rfl
    · cases said.symm.trans fileContent
      exact Place.has_payload envelope rfl
    · cases said.symm.trans fileType
      exact Place.has_payload envelope rfl
    · cases said.symm.trans relatedId
      exact Place.has_payload envelope rfl
  | custom =>
    obtain ⟨key, payload, _, envelope, _⟩ := prepareCustom_eq_ok ready
    have counts : Text.nonBlank (some text) = some text :=
      Text.nonBlank_eq_some_iff.2 ⟨rfl, visible⟩
    simp only [Route.textPlaces, List.mem_cons, Prod.mk.injEq, List.not_mem_nil, or_false] at listed
    rcases listed with ⟨rfl, rfl⟩ | ⟨rfl, rfl⟩ | ⟨rfl, rfl⟩
    · exact (Option.some.inj (said.symm.trans key)).symm
    · have type : p.envelope.messageType = text := by
        rw [envelope, said]
        simp only [Template.custom, Envelope.build, counts, Option.getD_some]
      exact congrArg (fun text => some (Json.string text)) type
    · have correlation : p.envelope.correlationId = text := by
        rw [envelope, said]
        simp only [Template.custom, Envelope.build, counts, Option.getD_some]
      exact congrArg (fun text => some (Json.string text)) correlation

/-- A number that is copied is copied as it is held. -/
theorem copied_of_prepare {route : Route} {source target : Path} (copies : route.Copies source target)
    (ready : route.prepare defaults draws r = .ok p) {j : Json}
    (written : Json.read r.body.data.toList = .ok j) {n : Json.Number}
    (held : j.at? source = some (.number n)) : p.envelope.json.at? target = some (.number n) := by
  have said (name : String) : said? r name = j.member? name := by rw [said?, written]
  cases copies with
  | capital =>
    obtain ⟨q, _, _, _, capital, envelope, _⟩ := prepareBacktest_eq_ok ready
    rw [Json.at?_singleton, ← said, capital] at held
    cases held
    rw [at?_payload, envelope]
    rfl
  | payload path =>
    obtain ⟨_, payload, given, envelope, _⟩ := prepareCustom_eq_ok ready
    rw [Json.at?_member, ← said, given, Option.bind_some] at held
    calc p.envelope.json.at? (.member "payload" :: path)
        = payload.canonical.at? path := by
          rw [at?_payload, envelope]
          rfl
      _ = some (.number n) := by
          rw [Json.at?_canonical, held]
          rfl

/-- A request that a message was made of has JSON in its body, unless it has a form. -/
theorem read_of_prepare {route : Route} (kind : route.takesForms = true → r.bodyKind = .json)
    (ready : route.prepare defaults draws r = .ok p) :
    ∃ j, Json.read r.body.data.toList = .ok j := by
  obtain ⟨o, object⟩ : ∃ o, readObject r = .ok o := by
    cases route with
    | backtest | dataRequest | custom =>
      obtain ⟨o, object, _⟩ := bind_eq_ok ready
      exact ⟨o, object⟩
    | strategyUpload =>
      obtain ⟨_, ⟨other, _⟩ | ⟨_, o, object, _⟩, _⟩ := prepareStrategy_eq_ok ready
      · cases (kind rfl).symm.trans other
      · exact ⟨o, object⟩
    | fileUpload =>
      obtain ⟨_, _, reads, _⟩ := prepareFile_eq_ok ready
      obtain ⟨o, object, _⟩ := reads (kind rfl)
      exact ⟨o, object⟩
  obtain ⟨j, written, _⟩ := readObject_eq_ok object
  exact ⟨j, written⟩

theorem Route.Copies.json {route : Route} {source target : Path} (copies : route.Copies source target) :
    route.takesForms = true → r.bodyKind = .json := by
  cases copies <;> nofun

end Preparing

/-- An integer has a digit to see. -/
theorem blank_toString (n : Int) : Text.blank (toString n) = false := by
  obtain ⟨d, others, shape⟩ := List.exists_cons_of_ne_nil (Decimal.digitsOf_ne_nil n.natAbs)
  have digit : d.isDigit = true := Decimal.isDigit_digitsOf _ d (shape ▸ List.mem_cons_self ..)
  refine Text.blank_eq_false_iff.2 ⟨d, ?_, ?_⟩
  · have digits : n.natAbs.repr.toList = Decimal.digitsOf n.natAbs := String.toList_ofList
    have inside : d ∈ n.natAbs.repr.toList := by
      rw [digits, shape]
      exact List.mem_cons_self ..
    rw [Int.toString_eq_repr, Int.repr_eq_if]
    split
    · next nonnegative =>
      rwa [show n.toNat = n.natAbs by omega]
    · next negative =>
      rw [String.toList_append, show (-n).toNat = n.natAbs by omega]
      exact List.mem_append_right _ inside
  · obtain ⟨low, high⟩ := Text.isDigit_bounds digit
    simp [Text.isWhite]
    omega

section Requests

variable (route : Route) (r : Http.Request) (m : Outgoing) (n : Int)

/-- What becomes of an integer that a request has in plain decimal form, if it is kept. -/
structure Keeps (fits : -2 ^ 63 ≤ n ∧ n < 2 ^ 64) : Prop where
  held : ∀ {j place}, Json.read r.body.data.toList = .ok j →
    Json.Stands place r.body.data.toList n → j.at? place = some (.number (.integer n fits))
  copied : ∀ {source target}, route.Copies source target →
    Json.Stands source r.body.data.toList n → Json.Stands target m.envelope.bytes n
  text : ∀ {name place}, (name, place) ∈ route.textPlaces →
    (route.takesForms = true → r.bodyKind = .json) →
    Json.Stands [.member name] r.body.data.toList n → place.Has (toString n) m

/-- What becomes of one that is not kept: a double stands for it. -/
structure Rounds : Prop where
  held : ∀ {j place}, Json.read r.body.data.toList = .ok j →
    Json.Stands place r.body.data.toList n → ∃ x, j.at? place = some (.number (.real x))
  copied : ∀ {source target}, route.Copies source target →
    Json.Stands source r.body.data.toList n →
    ∃ x, m.envelope.json.at? target = some (.number (.real x))

end Requests

/-- What a request says with integers from -2^63 up to below 2^64 is published digit by digit: a capital
and what stands inside a custom payload as the integers, the fields that are texts as the texts of the
digits. Beyond either bound an integer is held as a double. -/
theorem integers_kept_exactly {σ ρ φ : Type} {s : Settings} {c : Connector σ ρ φ} {draws : Draws}
    {r : Http.Request} {broker : σ} {route : Route} (path : Route.ofPath? r.route = some route)
    (ok : (handle s c draws r broker).1.status = 200) :
    ∃ m, c.publishFresh m broker = (.ok true, (handle s c draws r broker).2) ∧
      (∀ (topology : Topology) (memory : Memory), Memory.Records topology m
        ((handle s (Memory.connector topology) draws r memory).1.status = 200) memory
        (handle s (Memory.connector topology) draws r memory).2) ∧
      ∀ n : Int, (∀ fits : -2 ^ 63 ≤ n ∧ n < 2 ^ 64, Keeps route r m n fits) ∧
        (¬(-2 ^ 63 ≤ n ∧ n < 2 ^ 64) → Rounds route r m n ∧
          (n.natAbs < 2 ^ 1023 →
            ∃ x, Json.read (Json.ascii (toString n)) = .ok (.number (.real x)))) := by
  obtain ⟨route, p, given, prepared, _, went⟩ := accepted_sent (accepted_of_ok path ok)
  cases path.symm.trans given
  obtain ⟨posted, _⟩ := accepted_of_ok path ok
  have body : Json.read p.envelope.bytes = .ok p.envelope.json.reread :=
    (ready_of_prepare prepared).read_back.1
  refine ⟨outgoing draws p, went,
    fun topology memory => records_of_ready topology memory posted path prepared,
    fun n => ⟨fun fits => ?_, fun outside => ⟨?_, ?_⟩⟩⟩
  · constructor
    · intro j place read stands
      exact (Json.at?_eq_integer_iff fits read).2 stands
    · intro source target copies stands
      obtain ⟨j, written⟩ := read_of_prepare copies.json prepared
      have held := (Json.at?_eq_integer_iff fits written).2 stands
      have copied := copied_of_prepare copies prepared written held
      refine (Json.at?_eq_integer_iff fits body).1 ?_
      rw [Json.at?_reread, copied]
      rfl
    · intro name place listed kind stands
      obtain ⟨j, written⟩ := read_of_prepare kind prepared
      have held := (Json.at?_eq_integer_iff fits written).2 stands
      rw [Json.at?_singleton] at held
      have said : saidText? r name = some (toString n) := by
        rw [saidText?, said?, written]
        exact congrArg (Option.bind · asText) held
      exact has_of_said kind prepared listed said (blank_toString n)
  · constructor
    · intro j place read stands
      exact stands.at?_real outside read
    · intro source target copies stands
      obtain ⟨j, written⟩ := read_of_prepare copies.json prepared
      obtain ⟨x, held⟩ := stands.at?_real outside written
      exact ⟨x, copied_of_prepare copies prepared written held⟩
  · intro finite
    obtain ⟨x, held⟩ := Json.ofInt?_of_outside outside finite
    exact ⟨x, Json.read_toString held⟩

/-- A backtest request with numbers at the ends of the range, one of them for a text. -/
def extremeBacktest : Http.Request where
  method := "POST"
  path := "/api/backtest"
  headers := []
  body := "\x7b\"strategy_id\":9223372036854775807,\"start_date\":\"a\",\"end_date\":\"b\",
    \"initial_capital\":18446744073709551615,\"instruments\":[]\x7d".toUTF8

/-- A custom message with a number for its key and the lowest integer inside its payload. -/
def extremeMessage : Http.Request where
  method := "POST"
  path := "/api/message/custom"
  headers := []
  body := "\x7b\"payload\":\x7b\"b\":[0,-9223372036854775808]\x7d,\"routing_key\":7\x7d".toUTF8

theorem extreme_integers_kept :
    let s := strictSettings.under .warn
    (Route.ofPath? extremeBacktest.route = some .backtest ∧
      (handle s (Memory.connector .standard) zeroDraws extremeBacktest .fresh).1.status = 200 ∧
      ∃ m entry, (Memory.connector .standard).publishFresh m .fresh = (.ok true,
          (handle s (Memory.connector .standard) zeroDraws extremeBacktest .fresh).2) ∧
        (handle s (Memory.connector .standard) zeroDraws extremeBacktest .fresh).2.published =
          [entry] ∧
        Json.Stands [.member "payload", .member "config", .member "initial_capital"]
          entry.body 18446744073709551615 ∧
        (Place.payload "strategy_id").Has "9223372036854775807" m) ∧
    (Route.ofPath? extremeMessage.route = some .custom ∧
      (handle s (Memory.connector .standard) zeroDraws extremeMessage .fresh).1.status = 200 ∧
      ∃ m entry, (Memory.connector .standard).publishFresh m .fresh = (.ok true,
          (handle s (Memory.connector .standard) zeroDraws extremeMessage .fresh).2) ∧
        (handle s (Memory.connector .standard) zeroDraws extremeMessage .fresh).2.published =
          [entry] ∧
        Json.Stands [.member "payload", .member "b", .item 1] entry.body (-9223372036854775808) ∧
        entry.routingKey = "7" ∧
        ∀ n ∈ [18446744073709551616, -9223372036854775809],
          ∃ x, Json.read (Json.ascii (toString n)) = .ok (.number (.real x))) := by
  intro s
  constructor
  · have path : Route.ofPath? extremeBacktest.route = some .backtest := by decide +kernel
    have ok : (handle s (Memory.connector .standard) zeroDraws extremeBacktest .fresh).1.status =
        200 := by decide +kernel
    obtain ⟨m, sent, records, every⟩ := integers_kept_exactly path ok
    obtain ⟨entry, recorded, holds⟩ := (records .standard .fresh).added ok
    have read : Json.read extremeBacktest.body.data.toList = .ok (.object [
        ("strategy_id", .number (.integer 9223372036854775807 (by omega))),
        ("start_date", .string "a"), ("end_date", .string "b"),
        ("initial_capital", .number (.integer 18446744073709551615 (by omega))),
        ("instruments", .array [])]) := by decide +kernel
    refine ⟨path, ok, m, entry, sent, recorded, ?_, ?_⟩
    · rw [holds.body]
      exact ((every _).1 (by omega)).copied .capital ((Json.at?_eq_integer_iff _ read).1 rfl)
    · exact ((every 9223372036854775807).1 (by omega)).text (List.mem_cons_self ..) nofun
        ((Json.at?_eq_integer_iff _ read).1 rfl)
  · have path : Route.ofPath? extremeMessage.route = some .custom := by decide +kernel
    have ok : (handle s (Memory.connector .standard) zeroDraws extremeMessage .fresh).1.status =
        200 := by decide +kernel
    obtain ⟨m, sent, records, every⟩ := integers_kept_exactly path ok
    obtain ⟨entry, recorded, holds⟩ := (records .standard .fresh).added ok
    have read : Json.read extremeMessage.body.data.toList = .ok (.object [
        ("payload", .object [("b", .array [.number (.integer 0 (by decide)),
          .number (.integer (-9223372036854775808) (by omega))])]),
        ("routing_key", .number (.integer 7 (by decide)))]) := by decide +kernel
    refine ⟨path, ok, m, entry, sent, recorded, ?_, ?_, ?_⟩
    · rw [holds.body]
      exact ((every _).1 (by omega)).copied (.payload _) ((Json.at?_eq_integer_iff _ read).1 rfl)
    · rw [holds.routingKey]
      exact ((every 7).1 (by decide)).text (List.mem_cons_self ..) nofun
        ((Json.at?_eq_integer_iff _ read).1 rfl)
    · intro n member
      have beyond : ¬(-2 ^ 63 ≤ n ∧ n < 2 ^ 64) ∧ n.natAbs < 2 ^ 1023 := by
        rcases List.mem_pair.1 member with rfl | rfl <;> decide +kernel
      exact ((every n).2 beyond.1).2 beyond.2

end TopicGateway.Gateway
