import TopicGateway.Message.Payload
import TopicGateway.Proofs.Json.Canonical
import TopicGateway.Proofs.Time.Rfc3339

/-! Which payloads are read back from the value they are written as. A typed payload comes back under
its own message type if its doubles are finite, and only then; another value comes back if it is not
taken for a typed payload. -/
namespace TopicGateway

/-- A number that can be written in JSON. -/
def Binary64.Finite (x : Binary64) : Prop :=
  ∃ r, x = .finite r

instance (x : Binary64) : Decidable x.Finite :=
  match x with
  | .finite r => isTrue ⟨r, rfl⟩
  | .infinite _ => isFalse (fun finite => nomatch finite)
  | .nan => isFalse (fun finite => nomatch finite)

namespace Message

/-- Every double of the payload is finite. -/
def Payload.FiniteDoubles : Payload → Prop
  | .backtest p => p.execution.slippage.Finite ∧ p.execution.commission.Finite ∧
      p.risk.maxPositionSize.Finite ∧ p.risk.maxDrawdown.Finite
  | _ => True

/-- Every setting that goes into a payload can be written in JSON. -/
structure Defaults.Finite (d : Defaults) : Prop where
  slippage : d.execution.slippage.Finite
  commission : d.execution.commission.Finite
  maxPositionSize : d.risk.maxPositionSize.Finite
  maxDrawdown : d.risk.maxDrawdown.Finite

theorem finite_builtIn : Defaults.builtIn.Finite := by
  constructor <;> decide +kernel

theorem canonical_floatJson (x : Binary64) :
    (Defaults.floatJson x).canonical = Defaults.floatJson x := by
  cases x <;> rfl

theorem canonicalItems_strings (items : List String) :
    Json.canonicalItems (items.map .string) = items.map .string := by
  induction items with
  | nil => rfl
  | cons s items ih =>
    rw [List.map_cons, Json.canonicalItems, ih]
    rfl

theorem canonical_stringsJson (items : List String) :
    (Defaults.stringsJson items).canonical = Defaults.stringsJson items := by
  rw [Defaults.stringsJson, Json.canonical, canonicalItems_strings]

theorem Backtest.canonical_json (p : Backtest) : p.json.canonical = .object [
    ("config", .object [
      ("end_date", .string p.endDate),
      ("execution_settings", .object [
        ("commission", Defaults.floatJson p.execution.commission),
        ("slippage", Defaults.floatJson p.execution.slippage)]),
      ("initial_capital", .number p.initialCapital),
      ("instruments", Defaults.stringsJson p.instruments),
      ("risk_settings", .object [
        ("max_drawdown", Defaults.floatJson p.risk.maxDrawdown),
        ("max_position_size", Defaults.floatJson p.risk.maxPositionSize)]),
      ("start_date", .string p.startDate)]),
    ("strategy_id", .string p.strategyId)] := by
  simp (disch := decide) only [Backtest.json, Defaults.executionJson, Defaults.riskJson,
    Json.canonical, Json.canonicalMembers, Json.sortMembers, List.foldr_cons, List.foldr_nil,
    Json.insertMember_nil, Json.insertMember_before, Json.insertMember_after, canonical_floatJson,
    canonical_stringsJson]

theorem StrategyUpload.canonical_json (p : StrategyUpload) : p.json.canonical = .object [
    ("code", .string p.code),
    ("name", .string p.name),
    ("parameters", p.parameters.value.json),
    ("strategy_id", .string p.strategyId),
    ("tags", Defaults.stringsJson p.tags),
    ("version", .string p.version)] := by
  simp (disch := decide) only [StrategyUpload.json, Json.canonical, Json.canonicalMembers,
    Json.sortMembers, List.foldr_cons, List.foldr_nil, Json.insertMember_nil,
    Json.insertMember_before, Json.insertMember_after, Json.Object.canonical_value,
    canonical_stringsJson]

theorem DataRequest.canonical_json (p : DataRequest) : p.json.canonical = .object [
    ("end_date", .string p.endDate),
    ("frequency", .string p.frequency),
    ("instrument_id", .string p.instrumentId),
    ("start_date", .string p.startDate)] := by
  simp (disch := decide) only [DataRequest.json, Json.canonical, Json.canonicalMembers,
    Json.sortMembers, List.foldr_cons, List.foldr_nil, Json.insertMember_nil,
    Json.insertMember_before, Json.insertMember_after]

theorem canonical_optional (s : Option String) :
    ((s.map Json.string).getD .null).canonical = (s.map Json.string).getD .null := by
  cases s <;> rfl

theorem FileUpload.canonical_json (p : FileUpload) : p.json.canonical = .object [
    ("file_content", .string p.fileContent),
    ("file_name", .string p.fileName),
    ("file_size", .number (sizeNumber p.fileSize)),
    ("file_type", .string p.fileType),
    ("related_id", (p.relatedId.map .string).getD .null),
    ("upload_time", .string p.uploadTime.text)] := by
  simp (disch := decide) only [FileUpload.json, Json.canonical, Json.canonicalMembers,
    Json.sortMembers, List.foldr_cons, List.foldr_nil, Json.insertMember_nil,
    Json.insertMember_before, Json.insertMember_after, canonical_optional]

theorem depth_floatJson (x : Binary64) : (Defaults.floatJson x).depth = 0 := by
  cases x <;> rfl

theorem depth_stringsJson (items : List String) : (Defaults.stringsJson items).depth = 1 := by
  have inside : Json.depthItems (items.map .string) = 0 := by
    induction items with
    | nil => rfl
    | cons s items ih =>
      rw [List.map_cons, Json.depthItems, ih]
      rfl
  rw [Defaults.stringsJson, Json.depth, inside]

theorem depth_optional (s : Option String) : ((s.map Json.string).getD .null).depth = 0 := by
  cases s <;> rfl

/-- Sorting the members of a payload leaves its depth. -/
theorem Payload.depth_value (p : Payload) : p.json.value.json.depth = p.json.depth := by
  cases p with
  | backtest p =>
    simp only [Payload.json, Json.value, Backtest.canonical_json]
    simp only [Backtest.json, Defaults.executionJson, Defaults.riskJson, Json.depth,
      Json.depthMembers, depth_floatJson]
    omega
  | strategyUpload p =>
    simp only [Payload.json, Json.value, StrategyUpload.canonical_json]
    simp [StrategyUpload.json, Json.depth, Json.depthMembers]
  | dataRequest p =>
    simp only [Payload.json, Json.value, DataRequest.canonical_json]
    simp [DataRequest.json, Json.depth, Json.depthMembers]
  | fileUpload p =>
    simp only [Payload.json, Json.value, FileUpload.canonical_json]
    simp [FileUpload.json, Json.depth, Json.depthMembers, depth_optional]
  | custom v =>
    simp only [Payload.json, v.value_json]

theorem texts?_stringsJson (items : List String) :
    texts? (Defaults.stringsJson items) = some items := by
  rw [Defaults.stringsJson, texts?]
  induction items with
  | nil => rfl
  | cons s items ih =>
    rw [List.map_cons, List.mapM_cons, ih]
    rfl

theorem size?_sizeNumber (size : UInt64) : size? (.number (sizeNumber size)) = some size := by
  have nonnegative : (0 : Int) ≤ size.toNat := Int.natCast_nonneg _
  rw [sizeNumber, Json.Number.ofNat, size?, if_pos nonnegative, Int.toNat_natCast,
    UInt64.ofNat_toNat]

theorem optionalText?_json (s : Option String) :
    optionalText? (some ((s.map .string).getD .null)) = some s := by
  cases s <;> rfl

theorem time?_text (t : Time.Instant) : time? (.string t.text) = some t := by
  rw [time?, Time.Instant.parse_text]
  rfl

theorem Backtest.decode?_json (p : Backtest) (finite : (Payload.backtest p).FiniteDoubles) :
    decode? p.json.canonical = some p := by
  obtain ⟨strategyId, startDate, endDate, capital, instruments, ⟨slippage, commission⟩,
    ⟨size, drawdown⟩⟩ := p
  obtain ⟨⟨s, rfl⟩, ⟨c, rfl⟩, ⟨z, rfl⟩, ⟨d, rfl⟩⟩ := finite
  rw [Backtest.canonical_json]
  -- Looking members up by name computes; a list of any length does not.
  change ((texts? (Defaults.stringsJson instruments)).bind fun instruments =>
    some (Backtest.mk strategyId startDate endDate capital instruments
      ⟨.finite s, .finite c⟩ ⟨.finite z, .finite d⟩)) = _
  rw [texts?_stringsJson]
  rfl

theorem StrategyUpload.decode?_json (p : StrategyUpload) : decode? p.json.canonical = some p := by
  rw [StrategyUpload.canonical_json]
  change (p.parameters.value.json.value.object?.bind fun parameters =>
    (texts? (Defaults.stringsJson p.tags)).bind fun tags =>
      some (StrategyUpload.mk p.strategyId p.name p.version p.code parameters tags)) = some p
  rw [p.parameters.object?_value_json, texts?_stringsJson]
  rfl

theorem DataRequest.decode?_json (p : DataRequest) : decode? p.json.canonical = some p := by
  rw [DataRequest.canonical_json]
  rfl

theorem FileUpload.decode?_json (p : FileUpload) : decode? p.json.canonical = some p := by
  rw [FileUpload.canonical_json]
  change ((size? (.number (sizeNumber p.fileSize))).bind fun size =>
    (optionalText? (some ((p.relatedId.map .string).getD .null))).bind fun related =>
      (time? (.string p.uploadTime.text)).bind fun time =>
        some (FileUpload.mk p.fileName p.fileContent p.fileType size related time)) = some p
  rw [size?_sizeNumber, optionalText?_json, time?_text]
  rfl

/-- A payload with finite doubles is what its value is read as under its own kind. -/
theorem Kind.decodeExact?_json {k : Kind} {p : Payload} (typed : p.kind? = some k)
    (finite : p.FiniteDoubles) : k.decodeExact? p.json.value = some p := by
  have read : k.decode? p.json.canonical = some p := by
    cases p with
    | backtest p =>
      cases typed
      exact congrArg (Option.map Payload.backtest) (p.decode?_json finite)
    | strategyUpload p =>
      cases typed
      exact congrArg (Option.map Payload.strategyUpload) p.decode?_json
    | dataRequest p =>
      cases typed
      exact congrArg (Option.map Payload.dataRequest) p.decode?_json
    | fileUpload p =>
      cases typed
      exact congrArg (Option.map Payload.fileUpload) p.decode?_json
    | custom v => cases typed
  rw [decodeExact?, Json.value, read]
  exact if_pos (decide_eq_true rfl)

theorem Kind.messageType_of_ofMessageType? {messageType : String} {k : Kind}
    (found : ofMessageType? messageType = some k) : k.messageType = messageType := by
  unfold ofMessageType? at found
  split at found
  · next eq =>
    cases found
    exact eq.symm
  split at found
  · next eq =>
    cases found
    exact eq.symm
  split at found
  · next eq =>
    cases found
    exact eq.symm
  split at found
  · next eq =>
    cases found
    exact eq.symm
  · cases found

theorem setting?_finite {builtIn x : Binary64} {j : Option Json} (finite : builtIn.Finite)
    (read : setting? builtIn j = some x) : x.Finite := by
  unfold setting? at read
  split at read
  · cases read
    exact finite
  · unfold double? at read
    split at read
    · cases read
      exact ⟨_, rfl⟩
    · cases read

theorem ExecutionSettings.finite_of_decode? {j : Json} {s : ExecutionSettings}
    (read : decode? j = some s) : s.slippage.Finite ∧ s.commission.Finite := by
  obtain ⟨field, _, read⟩ := Option.bind_eq_some_iff.1 read
  obtain ⟨slippage, first, read⟩ := Option.bind_eq_some_iff.1 read
  obtain ⟨commission, second, read⟩ := Option.bind_eq_some_iff.1 read
  cases read
  exact ⟨setting?_finite finite_builtIn.slippage first,
    setting?_finite finite_builtIn.commission second⟩

theorem RiskSettings.finite_of_decode? {j : Json} {s : RiskSettings}
    (read : decode? j = some s) : s.maxPositionSize.Finite ∧ s.maxDrawdown.Finite := by
  obtain ⟨field, _, read⟩ := Option.bind_eq_some_iff.1 read
  obtain ⟨size, first, read⟩ := Option.bind_eq_some_iff.1 read
  obtain ⟨drawdown, second, read⟩ := Option.bind_eq_some_iff.1 read
  cases read
  exact ⟨setting?_finite finite_builtIn.maxPositionSize first,
    setting?_finite finite_builtIn.maxDrawdown second⟩

theorem Backtest.finite_of_decode? {j : Json} {p : Backtest} (read : decode? j = some p) :
    (Payload.backtest p).FiniteDoubles := by
  simp only [decode?, Option.bind_eq_bind, Option.bind_eq_some_iff] at read
  obtain ⟨_, _, _, _, _, _, _, _, _, _, _, _, _, _, execution, ⟨_, _, settings⟩, risk,
    ⟨_, _, limits⟩, made⟩ := read
  cases made
  obtain ⟨slippage, commission⟩ := ExecutionSettings.finite_of_decode? settings
  obtain ⟨size, drawdown⟩ := RiskSettings.finite_of_decode? limits
  exact ⟨slippage, commission, size, drawdown⟩

theorem Kind.finite_of_decode? {k : Kind} {j : Json} {p : Payload}
    (read : k.decode? j = some p) : p.FiniteDoubles := by
  cases k with
  | backtest =>
    obtain ⟨q, decoded, rfl⟩ := Option.map_eq_some_iff.1 read
    exact Backtest.finite_of_decode? decoded
  | strategyUpload | dataRequest | fileUpload =>
    obtain ⟨q, _, rfl⟩ := Option.map_eq_some_iff.1 read
    trivial

theorem Kind.kind?_of_decode? {k : Kind} {j : Json} {p : Payload}
    (read : k.decode? j = some p) : p.kind? = some k := by
  cases k <;>
  · obtain ⟨q, _, rfl⟩ := Option.map_eq_some_iff.1 read
    rfl

theorem Kind.decodeExact?_eq_some {k : Kind} {v : Json.Value} {p : Payload}
    (read : k.decodeExact? v = some p) :
    p.kind? = some k ∧ p.FiniteDoubles ∧ p.json.value = v := by
  obtain ⟨decoded, same⟩ := Option.filter_eq_some_iff.1 read
  exact ⟨kind?_of_decode? decoded, finite_of_decode? decoded, of_decide_eq_true same⟩

namespace Payload

/-- Reading back gives a typed payload or the value as it is. -/
theorem ofWire_cases (messageType : String) (v : Json.Value) :
    (∃ p, ofWire messageType v = p ∧ p.messageType? = some messageType ∧ p.FiniteDoubles ∧
      p.json.value = v) ∨
    ofWire messageType v = .custom v := by
  rw [ofWire]
  cases found : Kind.ofMessageType? messageType with
  | none => exact .inr rfl
  | some k =>
    rw [Option.bind_some]
    cases read : k.decodeExact? v with
    | none => exact .inr rfl
    | some p =>
      obtain ⟨kind, finite, same⟩ := Kind.decodeExact?_eq_some read
      refine .inl ⟨p, rfl, ?_, finite, same⟩
      rw [messageType?, kind, Option.map_some, Kind.messageType_of_ofMessageType? found]

/-- A typed payload with finite doubles is what its value is read as under its message type. -/
theorem ofWire_value {p : Payload} {messageType : String}
    (typed : p.messageType? = some messageType) (finite : p.FiniteDoubles) :
    ofWire messageType p.json.value = p := by
  obtain ⟨k, kind, rfl⟩ := Option.map_eq_some_iff.1 typed
  rw [ofWire, Kind.ofMessageType?_messageType, Option.bind_some,
    Kind.decodeExact?_json kind finite]
  rfl

/-- A payload is what its value is read as just when it is typed under this message type with finite
doubles, or any other value that is left as it is. -/
theorem ofWire_value_eq_iff (messageType : String) (p : Payload) :
    ofWire messageType p.json.value = p ↔
      (p.messageType? = some messageType ∧ p.FiniteDoubles) ∨
      ∃ v, p = .custom v ∧ (ofWire messageType v).kind? = none := by
  constructor
  · intro same
    rcases ofWire_cases messageType p.json.value with ⟨q, eq, type, finite, _⟩ | eq
    · rw [← same, eq]
      exact .inl ⟨type, finite⟩
    · have custom : p = .custom p.json.value := same.symm.trans eq
      refine .inr ⟨p.json.value, custom, ?_⟩
      rw [eq]
      rfl
  · rintro (⟨type, finite⟩ | ⟨v, rfl, left⟩)
    · exact ofWire_value type finite
    · have value : (Payload.custom v).json.value = v := v.value_json
      rw [value]
      rcases ofWire_cases messageType v with ⟨q, eq, type, _⟩ | eq
      · rw [eq] at left
        rw [messageType?, left] at type
        cases type
      · exact eq

end Payload

end Message

end TopicGateway
