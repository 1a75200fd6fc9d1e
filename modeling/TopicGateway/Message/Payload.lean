import TopicGateway.Message.Defaults
import TopicGateway.Time.Rfc3339

/-! Message payloads. Four kinds of payload have a shape of their own, each under one message type;
every other payload is any JSON value. A value is taken for a typed payload only if it is exactly
what that payload is written as, so that reading never adds, drops or changes a member. -/

namespace TopicGateway.Message

inductive Kind where
  | backtest
  | strategyUpload
  | dataRequest
  | fileUpload
  deriving DecidableEq

def Kind.messageType : Kind → String
  | .backtest => "backtest.request"
  | .strategyUpload => "strategy.upload"
  | .dataRequest => "data.request"
  | .fileUpload => "file.upload"

def Kind.ofMessageType? (messageType : String) : Option Kind :=
  if messageType = "backtest.request" then some .backtest
  else if messageType = "strategy.upload" then some .strategyUpload
  else if messageType = "data.request" then some .dataRequest
  else if messageType = "file.upload" then some .fileUpload
  else none

theorem Kind.ofMessageType?_messageType (k : Kind) : ofMessageType? k.messageType = some k := by
  cases k <;> decide

structure Backtest where
  strategyId : String
  startDate : String
  endDate : String
  initialCapital : Json.Number
  instruments : List String
  execution : ExecutionSettings
  risk : RiskSettings
  deriving DecidableEq

structure StrategyUpload where
  strategyId : String
  name : String
  version : String
  code : String
  parameters : Json.Object
  tags : List String
  deriving DecidableEq

structure DataRequest where
  instrumentId : String
  startDate : String
  endDate : String
  frequency : String
  deriving DecidableEq

structure FileUpload where
  fileName : String
  /-- The content in base64. -/
  fileContent : String
  fileType : String
  /-- The number of bytes of the content. -/
  fileSize : UInt64
  relatedId : Option String
  uploadTime : Time.Instant
  deriving DecidableEq

inductive Payload where
  | backtest (p : Backtest)
  | strategyUpload (p : StrategyUpload)
  | dataRequest (p : DataRequest)
  | fileUpload (p : FileUpload)
  | custom (v : Json.Value)
  deriving DecidableEq

def sizeNumber (size : UInt64) : Json.Number :=
  .ofNat size.toNat size.toNat_lt

def Backtest.json (p : Backtest) : Json :=
  .object [
    ("strategy_id", .string p.strategyId),
    ("config", .object [
      ("start_date", .string p.startDate),
      ("end_date", .string p.endDate),
      ("initial_capital", .number p.initialCapital),
      ("instruments", Defaults.stringsJson p.instruments),
      ("execution_settings", Defaults.executionJson p.execution),
      ("risk_settings", Defaults.riskJson p.risk)])]

def StrategyUpload.json (p : StrategyUpload) : Json :=
  .object [
    ("strategy_id", .string p.strategyId),
    ("name", .string p.name),
    ("version", .string p.version),
    ("code", .string p.code),
    ("parameters", p.parameters.value.json),
    ("tags", Defaults.stringsJson p.tags)]

def DataRequest.json (p : DataRequest) : Json :=
  .object [
    ("instrument_id", .string p.instrumentId),
    ("start_date", .string p.startDate),
    ("end_date", .string p.endDate),
    ("frequency", .string p.frequency)]

def FileUpload.json (p : FileUpload) : Json :=
  .object [
    ("file_name", .string p.fileName),
    ("file_content", .string p.fileContent),
    ("file_type", .string p.fileType),
    ("file_size", .number (sizeNumber p.fileSize)),
    ("related_id", (p.relatedId.map .string).getD .null),
    ("upload_time", .string p.uploadTime.text)]

namespace Payload

/-- The kind of a payload that has a shape of its own. -/
def kind? : Payload → Option Kind
  | .backtest _ => some .backtest
  | .strategyUpload _ => some .strategyUpload
  | .dataRequest _ => some .dataRequest
  | .fileUpload _ => some .fileUpload
  | .custom _ => none

def messageType? (p : Payload) : Option String :=
  p.kind?.map Kind.messageType

def json : Payload → Json
  | .backtest p => p.json
  | .strategyUpload p => p.json
  | .dataRequest p => p.json
  | .fileUpload p => p.json
  | .custom v => v.json

end Payload

/-- What a value holds of the fields of a record, by name. A list may end early. -/
def fields? (names : List String) : Json → Option (String → Option Json)
  | .object members => some fun name => members.lookup name
  | .array items =>
    if items.length ≤ names.length then some fun name => (names.zip items).lookup name else none
  | _ => none

def text? : Json → Option String
  | .string s => some s
  | _ => none

def texts? : Json → Option (List String)
  | .array items => items.mapM text?
  | _ => none

def number? : Json → Option Json.Number
  | .number n => some n
  | _ => none

def double? : Json → Option Binary64
  | .number n => some (.finite n.toReal)
  | _ => none

def size? : Json → Option UInt64
  | .number (.integer n _) => if 0 ≤ n then some (UInt64.ofNat n.toNat) else none
  | _ => none

def time? : Json → Option Time.Instant
  | .string s => (Time.Instant.parse s).toOption
  | _ => none

def setting? (builtIn : Binary64) : Option Json → Option Binary64
  | none => some builtIn
  | some j => double? j

def optionalText? : Option Json → Option (Option String)
  | none | some .null => some none
  | some j => (text? j).map some

def ExecutionSettings.decode? (j : Json) : Option ExecutionSettings := do
  let field ← fields? ["slippage", "commission"] j
  return {
    slippage := ← setting? Defaults.builtIn.execution.slippage (field "slippage")
    commission := ← setting? Defaults.builtIn.execution.commission (field "commission") }

def RiskSettings.decode? (j : Json) : Option RiskSettings := do
  let field ← fields? ["max_position_size", "max_drawdown"] j
  return {
    maxPositionSize := ← setting? Defaults.builtIn.risk.maxPositionSize (field "max_position_size")
    maxDrawdown := ← setting? Defaults.builtIn.risk.maxDrawdown (field "max_drawdown") }

def Backtest.decode? (j : Json) : Option Backtest := do
  let field ← fields? ["strategy_id", "config"] j
  let strategyId ← (field "strategy_id").bind text?
  let config ← (field "config").bind <| fields? ["start_date", "end_date", "initial_capital",
    "instruments", "execution_settings", "risk_settings"]
  return {
    strategyId
    startDate := ← (config "start_date").bind text?
    endDate := ← (config "end_date").bind text?
    initialCapital := ← (config "initial_capital").bind number?
    instruments := ← (config "instruments").bind texts?
    execution := ← (config "execution_settings").bind ExecutionSettings.decode?
    risk := ← (config "risk_settings").bind RiskSettings.decode? }

def StrategyUpload.decode? (j : Json) : Option StrategyUpload := do
  let field ← fields? ["strategy_id", "name", "version", "code", "parameters", "tags"] j
  return {
    strategyId := ← (field "strategy_id").bind text?
    name := ← (field "name").bind text?
    version := ← (field "version").bind text?
    code := ← (field "code").bind text?
    parameters := ← (field "parameters").bind fun j => j.value.object?
    tags := ← (field "tags").bind texts? }

def DataRequest.decode? (j : Json) : Option DataRequest := do
  let field ← fields? ["instrument_id", "start_date", "end_date", "frequency"] j
  return {
    instrumentId := ← (field "instrument_id").bind text?
    startDate := ← (field "start_date").bind text?
    endDate := ← (field "end_date").bind text?
    frequency := ← (field "frequency").bind text? }

/-- A list that ends before the related identifier has no time either, and is refused. -/
def FileUpload.decode? (j : Json) : Option FileUpload := do
  let field ← fields? ["file_name", "file_content", "file_type", "file_size", "related_id",
    "upload_time"] j
  return {
    fileName := ← (field "file_name").bind text?
    fileContent := ← (field "file_content").bind text?
    fileType := ← (field "file_type").bind text?
    fileSize := ← (field "file_size").bind size?
    relatedId := ← optionalText? (field "related_id")
    uploadTime := ← (field "upload_time").bind time? }

def Kind.decode? : Kind → Json → Option Payload
  | .backtest, j => (Backtest.decode? j).map .backtest
  | .strategyUpload, j => (StrategyUpload.decode? j).map .strategyUpload
  | .dataRequest, j => (DataRequest.decode? j).map .dataRequest
  | .fileUpload, j => (FileUpload.decode? j).map .fileUpload

/-- Records are read from objects and from lists, beside members that are no field. So much is read
that no payload is written as, and only what is written as exactly this value is taken. -/
def Kind.decodeExact? (k : Kind) (v : Json.Value) : Option Payload :=
  (k.decode? v.json).filter fun p => p.json.value = v

/-- The payload that a value is under its message type. -/
def Payload.ofWire (messageType : String) (v : Json.Value) : Payload :=
  ((Kind.ofMessageType? messageType).bind fun k => k.decodeExact? v).getD (.custom v)

end TopicGateway.Message
