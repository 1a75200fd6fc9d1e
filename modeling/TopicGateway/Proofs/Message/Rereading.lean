import TopicGateway.Proofs.Json.Rereading
import TopicGateway.Proofs.Message.Exact

/-! Payloads whose values are written and read again. A typed payload stays one of its kind, whatever
becomes of its doubles, and a value that is not taken for one is not taken for one afterwards. -/
namespace TopicGateway.Message

def ExecutionSettings.reread (s : ExecutionSettings) : ExecutionSettings :=
  ⟨s.slippage.reread, s.commission.reread⟩

def RiskSettings.reread (s : RiskSettings) : RiskSettings :=
  ⟨s.maxPositionSize.reread, s.maxDrawdown.reread⟩

def Backtest.reread (p : Backtest) : Backtest :=
  { p with
    initialCapital := p.initialCapital.reread
    execution := p.execution.reread
    risk := p.risk.reread }

def StrategyUpload.reread (p : StrategyUpload) : StrategyUpload :=
  { p with parameters := p.parameters.reread }

namespace Payload

/-- The payload with its doubles as they are read where they are written. -/
def reread : Payload → Payload
  | .backtest p => .backtest p.reread
  | .strategyUpload p => .strategyUpload p.reread
  | .custom v => .custom v.reread
  | p => p

theorem floatJson_reread (x : Binary64) :
    (Defaults.floatJson x).reread = Defaults.floatJson x.reread := by
  cases x <;> rfl

theorem stringsJson_reread (items : List String) :
    (Defaults.stringsJson items).reread = Defaults.stringsJson items := by
  rw [Defaults.stringsJson, Json.reread, Json.rereadItems_eq, List.map_map]
  rfl

theorem optional_reread (s : Option String) :
    ((s.map Json.string).getD .null).reread = (s.map Json.string).getD .null := by
  cases s <;> rfl

theorem json_reread (p : Payload) : p.json.reread = p.reread.json := by
  cases p with
  | backtest p =>
    simp only [json, Backtest.json, Defaults.executionJson, Defaults.riskJson, Json.reread,
      Json.rereadMembers, floatJson_reread, stringsJson_reread]
    rfl
  | strategyUpload p =>
    simp only [json, StrategyUpload.json, Json.reread, Json.rereadMembers, stringsJson_reread]
    rfl
  | dataRequest p => rfl
  | fileUpload p =>
    simp only [json, FileUpload.json, Json.reread, Json.rereadMembers, optional_reread]
    rfl
  | custom v => exact v.json_reread.symm

theorem kind?_reread (p : Payload) : p.reread.kind? = p.kind? := by
  cases p <;> rfl

end Payload

theorem finite_reread {x : Binary64} (finite : x.Finite) : x.reread.Finite := by
  obtain ⟨r, rfl⟩ := finite
  exact ⟨r.reread, rfl⟩

namespace Shape

/-- A value has the shape if and only if it has it where it is written and read again. -/
def Lasts (shape : Shape) : Prop :=
  ∀ j : Json, shape j.reread ↔ shape j

theorem text_lasts : Text.Lasts := by
  rintro (_ | _ | _ | _ | _ | _) <;> simp [Text, Json.reread]

theorem optionalText_lasts : OptionalText.Lasts := by
  rintro (_ | _ | _ | _ | _ | _) <;> simp [OptionalText, Json.reread]

theorem time_lasts : Time.Lasts := by
  rintro (_ | _ | _ | _ | _ | _) <;> simp [Time, Json.reread]

theorem number_lasts : Number.Lasts := by
  rintro (_ | _ | _ | _ | _ | _) <;> simp [Number, Json.reread]

theorem double_lasts : Double.Lasts := by
  rintro (_ | _ | (_ | _) | _ | _ | _) <;> simp [Double, Json.reread, Json.Number.reread]

theorem size_lasts : Size.Lasts := by
  rintro (_ | _ | (_ | _) | _ | _ | _) <;> simp [Size, Json.reread, Json.Number.reread]

theorem object_lasts : Object.Lasts := by
  rintro (_ | _ | _ | _ | _ | _) <;> simp [Object, Json.reread]

theorem texts_lasts : Texts.Lasts := by
  rintro (_ | _ | _ | _ | items | _) <;> simp only [Texts, Json.reread, Json.array.injEq, reduceCtorEq]
  refine exists_congr fun texts => ?_
  induction items generalizing texts with
  | nil => rfl
  | cons j items ih =>
    cases texts with
    | nil => simp [Json.rereadItems]
    | cons s texts =>
      rw [Json.rereadItems, List.map_cons, List.cons.injEq, List.cons.injEq, ih]
      cases j <;> simp [Json.reread]

theorem record_lasts {fields : List (String × Shape)} (each : ∀ field ∈ fields, Lasts field.2) :
    (Record fields).Lasts := by
  rintro (_ | _ | _ | _ | _ | _)
  case object members =>
    have names : (Json.rereadMembers members).map Prod.fst = members.map Prod.fst := by
      rw [Json.rereadMembers_eq, List.map_map]
      rfl
    have values : (∀ name shape value, (name, shape) ∈ fields →
          (name, value) ∈ Json.rereadMembers members → shape value) ↔
        ∀ name shape value, (name, shape) ∈ fields → (name, value) ∈ members → shape value := by
      rw [Json.rereadMembers_eq]
      constructor
      · intro fits name shape value field member
        have inside := List.mem_map_of_mem (f := fun m : String × Json => (m.1, m.2.reread)) member
        exact (each _ field value).1 (fits name shape _ field inside)
      · intro fits name shape value field member
        obtain ⟨⟨given, kept⟩, inside, same⟩ := List.mem_map.1 member
        cases same
        exact (each _ field kept).2 (fits given shape kept field inside)
    simp only [Record, Json.reread, Json.object.injEq, exists_eq_left', names, values]
  all_goals simp [Record, Json.reread]

theorem execution_lasts : ofExecution.Lasts :=
  record_lasts (by simp [double_lasts])

theorem risk_lasts : ofRisk.Lasts :=
  record_lasts (by simp [double_lasts])

theorem config_lasts : ofConfig.Lasts :=
  record_lasts (by simp [text_lasts, execution_lasts, number_lasts, texts_lasts, risk_lasts])

end Shape

theorem Kind.shape_lasts (k : Kind) : k.shape.Lasts := by
  cases k with
  | backtest => exact Shape.record_lasts (by simp [Shape.config_lasts, Shape.text_lasts])
  | strategyUpload =>
    exact Shape.record_lasts (by simp [Shape.text_lasts, Shape.object_lasts, Shape.texts_lasts])
  | dataRequest => exact Shape.record_lasts (by simp [Shape.text_lasts])
  | fileUpload =>
    exact Shape.record_lasts (by
      simp [Shape.text_lasts, Shape.size_lasts, Shape.optionalText_lasts, Shape.time_lasts])

namespace Payload

theorem finiteDoubles_reread {p : Payload} (finite : p.FiniteDoubles) : p.reread.FiniteDoubles := by
  cases p with
  | backtest p =>
    obtain ⟨slippage, commission, size, drawdown⟩ := finite
    exact ⟨finite_reread slippage, finite_reread commission, finite_reread size,
      finite_reread drawdown⟩
  | strategyUpload | dataRequest | fileUpload | custom => exact trivial

theorem finiteDoubles_ofWire (messageType : String) (v : Json.Value) :
    (ofWire messageType v).FiniteDoubles := by
  rcases ofWire_cases messageType v with ⟨p, eq, _, finite, _⟩ | eq
  · rwa [eq]
  · rw [eq]
    exact trivial

/-- Payloads of one kind that are written as the same value are the same. -/
theorem eq_of_value {p q : Payload} (kind : p.kind? = q.kind?) (finite : p.FiniteDoubles)
    (finite' : q.FiniteDoubles) (same : p.json.value = q.json.value) : p = q := by
  cases typed : p.kind? with
  | some k =>
    have first : ofWire k.messageType p.json.value = p :=
      ofWire_value (congrArg (Option.map Kind.messageType) typed) finite
    have second : ofWire k.messageType q.json.value = q :=
      ofWire_value (congrArg (Option.map Kind.messageType) (kind.symm.trans typed)) finite'
    rw [← first, same, second]
  | none =>
    rw [typed] at kind
    cases p with
    | custom v =>
      cases q with
      | custom w =>
        rw [json, json, v.value_json, w.value_json] at same
        rw [same]
      | backtest | strategyUpload | dataRequest | fileUpload => cases kind
    | backtest | strategyUpload | dataRequest | fileUpload => cases typed

/-- What a value is taken for is of the same kind where the value is written and read again, and has
the same doubles as it. -/
theorem ofWire_reread (messageType : String) (v : Json.Value) :
    ofWire messageType v.reread = (ofWire messageType v).reread := by
  refine eq_of_value ?_ (finiteDoubles_ofWire ..) (finiteDoubles_reread (finiteDoubles_ofWire ..)) ?_
  · rw [kind?_reread]
    refine Option.ext fun k => ?_
    rw [kind?_ofWire_iff, kind?_ofWire_iff, v.json_reread, k.shape_lasts]
  · rw [value_ofWire, ← json_reread, Json.value_reread, value_ofWire]

theorem reread_of_floatJson {x : Binary64}
    (same : Defaults.floatJson x.reread = Defaults.floatJson x) : x.reread = x := by
  cases x with
  | finite r =>
    simp only [Binary64.reread, Defaults.floatJson, Json.number.injEq, Json.Number.real.injEq] at same
    exact congrArg Binary64.finite same
  | infinite | nan => rfl

/-- A payload is as it was where all of its doubles are restored. -/
theorem reread_eq_self_iff (p : Payload) : p.reread = p ↔ p.json.Restored := by
  rw [← Json.reread_eq_self_iff, json_reread]
  constructor
  · exact congrArg json
  · intro same
    cases p with
    | backtest p =>
      obtain ⟨strategyId, startDate, endDate, capital, instruments, ⟨slippage, commission⟩,
        ⟨size, drawdown⟩⟩ := p
      simp [reread, json, Backtest.reread, Backtest.json, Defaults.executionJson, Defaults.riskJson,
        ExecutionSettings.reread, RiskSettings.reread] at same ⊢
      obtain ⟨capital, ⟨slippage, commission⟩, size, drawdown⟩ := same
      exact ⟨capital, ⟨reread_of_floatJson slippage, reread_of_floatJson commission⟩,
        reread_of_floatJson size, reread_of_floatJson drawdown⟩
    | strategyUpload p =>
      have members : Json.rereadMembers p.parameters.members = p.parameters.members := by
        simpa [reread, json, StrategyUpload.reread, StrategyUpload.json, Json.Object.reread,
          Json.Object.value] using same
      have parameters : p.parameters.reread = p.parameters := Json.Object.ext_members members
      exact congrArg (fun o => strategyUpload { p with parameters := o }) parameters
    | dataRequest p | fileUpload p => rfl
    | custom v => exact congrArg custom (Json.Value.ext_json same)

end Payload

end TopicGateway.Message
