import Mathlib.Data.List.Forall2
import Mathlib.Data.List.Sort
import TopicGateway.Proofs.Json.Members
import TopicGateway.Proofs.Message.Payload

/-! Which values are taken for typed payloads. Records can be read from lists and from objects with
other members in them or, for the settings, some missing; doubles can be read from integers and times
from many texts. What is left of all that is one shape for each kind. -/
namespace TopicGateway.Message

/-- What a value has to be. -/
abbrev Shape := Json → Prop

namespace Shape

def Text : Shape := fun j => ∃ s, j = .string s

def Texts : Shape := fun j => ∃ texts : List String, j = .array (texts.map .string)

def Number : Shape := fun j => ∃ n, j = .number n

/-- A number that is not read as an integer. -/
def Double : Shape := fun j => ∃ r, j = .number (.real r)

def Size : Shape := fun j => ∃ n fits, j = .number (.integer n fits) ∧ 0 ≤ n ∧ n < 2 ^ 64

def Object : Shape := fun j => ∃ members, j = .object members

def OptionalText : Shape := fun j => j = .null ∨ ∃ s, j = .string s

/-- The canonical text of the instant that it denotes. -/
def Time : Shape := fun j =>
  ∃ s t, j = .string s ∧ Time.Instant.parse s = .ok t ∧ s = t.text

/-- An object with these names, none missing and no other, and a value of its shape under each. -/
def Record (fields : List (String × Shape)) : Shape := fun j =>
  ∃ members, j = .object members ∧
    (∀ name, name ∈ members.map Prod.fst ↔ name ∈ fields.map Prod.fst) ∧
    ∀ name shape value, (name, shape) ∈ fields → (name, value) ∈ members → shape value

def ofExecution : Shape := Record [("commission", Double), ("slippage", Double)]

def ofRisk : Shape := Record [("max_drawdown", Double), ("max_position_size", Double)]

def ofConfig : Shape := Record [
  ("end_date", Text), ("execution_settings", ofExecution), ("initial_capital", Number),
  ("instruments", Texts), ("risk_settings", ofRisk), ("start_date", Text)]

end Shape

open Shape in
def Kind.shape : Kind → Shape
  | .backtest => Record [("config", ofConfig), ("strategy_id", Text)]
  | .strategyUpload => Record [
      ("code", Text), ("name", Text), ("parameters", Object), ("strategy_id", Text),
      ("tags", Texts), ("version", Text)]
  | .dataRequest => Record [
      ("end_date", Text), ("frequency", Text), ("instrument_id", Text), ("start_date", Text)]
  | .fileUpload => Record [
      ("file_content", Text), ("file_name", Text), ("file_size", Size), ("file_type", Text),
      ("related_id", OptionalText), ("upload_time", Time)]

namespace Shape

/-- One value of its shape for each field. -/
abbrev Each (fields : List (String × Shape)) (values : List Json) : Prop :=
  List.Forall₂ (fun field value => field.2 value) fields values

theorem each_of_named {fields : List (String × Shape)} {members : List (String × Json)}
    (named : members.map Prod.fst = fields.map Prod.fst)
    (each : ∀ name shape value, (name, shape) ∈ fields → (name, value) ∈ members → shape value) :
    Each fields (members.map Prod.snd) := by
  induction fields generalizing members with
  | nil =>
    obtain rfl := List.map_eq_nil_iff.1 named
    exact .nil
  | cons field fields ih =>
    obtain ⟨⟨name, value⟩, members, rfl, rfl, others⟩ := List.map_eq_cons_iff.1 named
    refine .cons (each _ _ _ (List.mem_cons_self ..) (List.mem_cons_self ..)) ?_
    exact ih others fun other shape value field member =>
      each other shape value (List.mem_cons_of_mem _ field) (List.mem_cons_of_mem _ member)

/-- An object of a record's shape holds its values in the order of their names. -/
theorem Record.values {fields : List (String × Shape)} {j : Json}
    (ascending : (fields.map Prod.fst).Pairwise (· < ·)) (kept : j.Canonical)
    (fits : Record fields j) :
    ∃ values, j = .object ((fields.map Prod.fst).zip values) ∧ Each fields values := by
  obtain ⟨members, rfl, names, each⟩ := fits
  have named : members.map Prod.fst = fields.map Prod.fst :=
    List.Pairwise.eq_of_mem_iff kept.1 ascending fun name => names name
  have zipped : members = (fields.map Prod.fst).zip (members.map Prod.snd) :=
    List.zip_of_prod named rfl
  exact ⟨_, congrArg Json.object zipped, each_of_named named each⟩

theorem Each.shape_of_mem {fields : List (String × Shape)} {members : List (String × Json)}
    (distinct : (fields.map Prod.fst).Nodup) (named : members.map Prod.fst = fields.map Prod.fst)
    (each : Each fields (members.map Prod.snd)) {name : String} {shape : Shape} {value : Json}
    (field : (name, shape) ∈ fields) (member : (name, value) ∈ members) : shape value := by
  induction fields generalizing members with
  | nil => cases field
  | cons first fields ih =>
    obtain ⟨m, members, rfl, same, others⟩ := List.map_eq_cons_iff.1 named
    obtain ⟨absent, distinct⟩ := List.nodup_cons.1 distinct
    cases each with
    | cons fits each =>
      rcases List.mem_cons.1 field with rfl | later
      · rcases List.mem_cons.1 member with rfl | behind
        · exact fits
        · rw [← others] at absent
          exact absurd (List.mem_map_of_mem behind) absent
      · rcases List.mem_cons.1 member with rfl | behind
        · rw [← same] at absent
          exact absurd (List.mem_map_of_mem later) absent
        · exact ih distinct others each later behind

theorem Each.record {fields : List (String × Shape)} {members : List (String × Json)}
    (distinct : (fields.map Prod.fst).Nodup) (named : members.map Prod.fst = fields.map Prod.fst)
    (each : Each fields (members.map Prod.snd)) : Record fields (.object members) := by
  refine ⟨members, rfl, fun name => ?_, fun _ _ _ => each.shape_of_mem distinct named⟩
  rw [named]

end Shape

namespace Payload

theorem double_floatJson {x : Binary64} (finite : x.Finite) : Shape.Double (Defaults.floatJson x) := by
  obtain ⟨r, rfl⟩ := finite
  exact ⟨r, rfl⟩

theorem size_sizeNumber (size : UInt64) : Shape.Size (.number (sizeNumber size)) :=
  ⟨_, _, rfl, Int.natCast_nonneg _, by have := size.toNat_lt; omega⟩

theorem optionalText_json (s : Option String) :
    Shape.OptionalText ((s.map .string).getD .null) := by
  cases s with
  | none => exact .inl rfl
  | some s => exact .inr ⟨s, rfl⟩

theorem time_text (t : Time.Instant) : Shape.Time (.string t.text) :=
  ⟨_, t, rfl, t.parse_text, rfl⟩

theorem shape_backtest (p : Backtest) (finite : (backtest p).FiniteDoubles) :
    Kind.backtest.shape p.json.canonical := by
  obtain ⟨slippage, commission, size, drawdown⟩ := finite
  rw [Backtest.canonical_json]
  refine Shape.Each.record (by decide) rfl (.cons ?_ (.cons ⟨_, rfl⟩ .nil))
  refine Shape.Each.record (by decide) rfl
    (.cons ⟨_, rfl⟩ (.cons ?_ (.cons ⟨_, rfl⟩ (.cons ⟨_, rfl⟩ (.cons ?_ (.cons ⟨_, rfl⟩ .nil))))))
  · exact Shape.Each.record (by decide) rfl
      (.cons (double_floatJson commission) (.cons (double_floatJson slippage) .nil))
  · exact Shape.Each.record (by decide) rfl
      (.cons (double_floatJson drawdown) (.cons (double_floatJson size) .nil))

theorem shape_strategyUpload (p : StrategyUpload) :
    Kind.strategyUpload.shape p.json.canonical := by
  rw [StrategyUpload.canonical_json]
  exact Shape.Each.record (by decide) rfl (.cons ⟨_, rfl⟩ (.cons ⟨_, rfl⟩ (.cons ⟨_, rfl⟩
    (.cons ⟨_, rfl⟩ (.cons ⟨_, rfl⟩ (.cons ⟨_, rfl⟩ .nil))))))

theorem shape_dataRequest (p : DataRequest) : Kind.dataRequest.shape p.json.canonical := by
  rw [DataRequest.canonical_json]
  exact Shape.Each.record (by decide) rfl
    (.cons ⟨_, rfl⟩ (.cons ⟨_, rfl⟩ (.cons ⟨_, rfl⟩ (.cons ⟨_, rfl⟩ .nil))))

theorem shape_fileUpload (p : FileUpload) : Kind.fileUpload.shape p.json.canonical := by
  rw [FileUpload.canonical_json]
  exact Shape.Each.record (by decide) rfl (.cons ⟨_, rfl⟩ (.cons ⟨_, rfl⟩
    (.cons (size_sizeNumber p.fileSize) (.cons ⟨_, rfl⟩
      (.cons (optionalText_json p.relatedId) (.cons (time_text p.uploadTime) .nil))))))

theorem shape_json {k : Kind} {p : Payload} (typed : p.kind? = some k)
    (finite : p.FiniteDoubles) : k.shape p.json.canonical := by
  cases p with
  | backtest p =>
    cases typed
    exact shape_backtest p finite
  | strategyUpload p =>
    cases typed
    exact shape_strategyUpload p
  | dataRequest p =>
    cases typed
    exact shape_dataRequest p
  | fileUpload p =>
    cases typed
    exact shape_fileUpload p
  | custom v => cases typed

theorem of_shape_backtest {j : Json} (kept : j.Canonical) (fits : Kind.backtest.shape j) :
    ∃ p : Backtest, p.json.canonical = j ∧ (backtest p).FiniteDoubles := by
  obtain ⟨_, rfl, _ | ⟨whole, _ | ⟨⟨strategyId, rfl⟩, ⟨⟩⟩⟩⟩ :=
    Shape.Record.values (by decide) kept fits
  obtain ⟨_, rfl, _ | ⟨⟨endDate, rfl⟩, _ | ⟨execution, _ | ⟨⟨capital, rfl⟩, _ | ⟨⟨instruments, rfl⟩,
    _ | ⟨risk, _ | ⟨⟨startDate, rfl⟩, ⟨⟩⟩⟩⟩⟩⟩⟩⟩ := Shape.Record.values (by decide) kept.2.1 whole
  obtain ⟨_, rfl, _ | ⟨⟨commission, rfl⟩, _ | ⟨⟨slippage, rfl⟩, ⟨⟩⟩⟩⟩ :=
    Shape.Record.values (by decide) kept.2.1.2.2.1 execution
  obtain ⟨_, rfl, _ | ⟨⟨drawdown, rfl⟩, _ | ⟨⟨size, rfl⟩, ⟨⟩⟩⟩⟩ :=
    Shape.Record.values (by decide) kept.2.1.2.2.2.2.2.1 risk
  refine ⟨⟨strategyId, startDate, endDate, capital, instruments,
    ⟨.finite slippage, .finite commission⟩, ⟨.finite size, .finite drawdown⟩⟩, ?_,
    ⟨_, rfl⟩, ⟨_, rfl⟩, ⟨_, rfl⟩, ⟨_, rfl⟩⟩
  rw [Backtest.canonical_json]
  rfl

theorem of_shape_strategyUpload {j : Json} (kept : j.Canonical)
    (fits : Kind.strategyUpload.shape j) : ∃ p : StrategyUpload, p.json.canonical = j := by
  obtain ⟨_, rfl, _ | ⟨⟨code, rfl⟩, _ | ⟨⟨name, rfl⟩, _ | ⟨⟨parameters, rfl⟩,
    _ | ⟨⟨strategyId, rfl⟩, _ | ⟨⟨tags, rfl⟩, _ | ⟨⟨version, rfl⟩, ⟨⟩⟩⟩⟩⟩⟩⟩⟩ :=
    Shape.Record.values (by decide) kept fits
  refine ⟨⟨strategyId, name, version, code, ⟨parameters, kept.2.2.2.1⟩, tags⟩, ?_⟩
  rw [StrategyUpload.canonical_json]
  rfl

theorem of_shape_dataRequest {j : Json} (kept : j.Canonical)
    (fits : Kind.dataRequest.shape j) : ∃ p : DataRequest, p.json.canonical = j := by
  obtain ⟨_, rfl, _ | ⟨⟨endDate, rfl⟩, _ | ⟨⟨frequency, rfl⟩, _ | ⟨⟨instrumentId, rfl⟩,
    _ | ⟨⟨startDate, rfl⟩, ⟨⟩⟩⟩⟩⟩⟩ := Shape.Record.values (by decide) kept fits
  refine ⟨⟨instrumentId, startDate, endDate, frequency⟩, ?_⟩
  rw [DataRequest.canonical_json]
  rfl

theorem sizeNumber_of_shape {j : Json} (fits : Shape.Size j) :
    ∃ size, j = .number (sizeNumber size) := by
  obtain ⟨n, fits, rfl, nonnegative, below⟩ := fits
  have small : n.toNat < 2 ^ 64 := by omega
  have number : ((UInt64.ofNat n.toNat).toNat : Int) = n := by
    rw [UInt64.toNat_ofNat_of_lt' small, Int.toNat_of_nonneg nonnegative]
  refine ⟨.ofNat n.toNat, ?_⟩
  simp only [sizeNumber, Json.Number.ofNat, number]

theorem optional_of_shape {j : Json} (fits : Shape.OptionalText j) :
    ∃ s : Option String, j = (s.map .string).getD .null := by
  rcases fits with rfl | ⟨s, rfl⟩
  · exact ⟨none, rfl⟩
  · exact ⟨some s, rfl⟩

theorem of_shape_fileUpload {j : Json} (kept : j.Canonical)
    (fits : Kind.fileUpload.shape j) : ∃ p : FileUpload, p.json.canonical = j := by
  obtain ⟨_, rfl, _ | ⟨⟨content, rfl⟩, _ | ⟨⟨name, rfl⟩, _ | ⟨number, _ | ⟨⟨type, rfl⟩,
    _ | ⟨optional, _ | ⟨⟨_, time, rfl, _, rfl⟩, ⟨⟩⟩⟩⟩⟩⟩⟩⟩ := Shape.Record.values (by decide) kept fits
  obtain ⟨size, rfl⟩ := sizeNumber_of_shape number
  obtain ⟨relatedId, rfl⟩ := optional_of_shape optional
  refine ⟨⟨name, content, type, size, relatedId, time⟩, ?_⟩
  rw [FileUpload.canonical_json]
  rfl

theorem exists_of_shape {k : Kind} {j : Json} (kept : j.Canonical) (fits : k.shape j) :
    ∃ p : Payload, p.kind? = some k ∧ p.FiniteDoubles ∧ p.json.canonical = j := by
  cases k with
  | backtest =>
    obtain ⟨p, same, finite⟩ := of_shape_backtest kept fits
    exact ⟨.backtest p, rfl, finite, same⟩
  | strategyUpload =>
    obtain ⟨p, same⟩ := of_shape_strategyUpload kept fits
    exact ⟨.strategyUpload p, rfl, trivial, same⟩
  | dataRequest =>
    obtain ⟨p, same⟩ := of_shape_dataRequest kept fits
    exact ⟨.dataRequest p, rfl, trivial, same⟩
  | fileUpload =>
    obtain ⟨p, same⟩ := of_shape_fileUpload kept fits
    exact ⟨.fileUpload p, rfl, trivial, same⟩

/-- The value of a payload is the value it was read from. -/
theorem value_ofWire (messageType : String) (v : Json.Value) :
    (ofWire messageType v).json.value = v := by
  rcases ofWire_cases messageType v with ⟨p, eq, _, _, same⟩ | eq
  · rw [eq]
    exact same
  · rw [eq]
    exact v.value_json

theorem kind?_ofWire_iff (messageType : String) (v : Json.Value) (k : Kind) :
    (ofWire messageType v).kind? = some k ↔ k.messageType = messageType ∧ k.shape v.json := by
  constructor
  · intro kind
    rcases ofWire_cases messageType v with ⟨p, eq, type, finite, rfl⟩ | eq
    · rw [eq] at kind
      rw [messageType?, kind] at type
      exact ⟨Option.some_injective _ type, shape_json kind finite⟩
    · rw [eq] at kind
      cases kind
  · rintro ⟨rfl, fits⟩
    obtain ⟨p, kind, finite, same⟩ := exists_of_shape v.canonical fits
    have value : p.json.value = v := by
      obtain ⟨j, kept⟩ := v
      simp only [Json.value, same]
    have type : p.messageType? = some k.messageType := congrArg (Option.map Kind.messageType) kind
    rw [← value, ofWire_value type finite]
    exact kind

/-- A value is a typed payload just under the message type of a kind whose shape it has, and otherwise
it is left as it is. Either way nothing is added, dropped or changed. -/
theorem ofWire_typed_iff_shape (messageType : String) (v : Json.Value) :
    (∀ k, (ofWire messageType v).kind? = some k ↔ k.messageType = messageType ∧ k.shape v.json) ∧
    (ofWire messageType v = .custom v ↔ ¬∃ k : Kind, k.messageType = messageType ∧ k.shape v.json) ∧
    (ofWire messageType v).json.value = v := by
  refine ⟨kind?_ofWire_iff messageType v, ⟨?_, ?_⟩, value_ofWire messageType v⟩
  · rintro custom ⟨k, typed⟩
    have kind := (kind?_ofWire_iff messageType v k).2 typed
    rw [custom] at kind
    cases kind
  · intro misfit
    rcases ofWire_cases messageType v with ⟨p, eq, type, _⟩ | eq
    · obtain ⟨k, kind, _⟩ := Option.map_eq_some_iff.1 type
      rw [← eq] at kind
      exact absurd ⟨k, (kind?_ofWire_iff messageType v k).1 kind⟩ misfit
    · exact eq

/-- A list of the four texts can be read as a request for data, but it is not what one is written
as. -/
example :
    let items : Json := .array [.string "EURUSD", .string "2024-01-01", .string "", .string "1d"]
    (Kind.dataRequest.decode? items).isSome ∧
    ofWire "data.request" items.value = .custom items.value := by
  decide

end Payload

end TopicGateway.Message
