import TopicGateway.Json.Record

/-! Template defaults. The constants that message templates fill in. They come in five sections;
each setting that a document does not give keeps its built-in value. `settings` lists every setting
with the way to put it into the whole, and every format that can hold defaults is read by that one
list. -/

namespace TopicGateway.Message

structure ExecutionSettings where
  slippage : Binary64
  commission : Binary64
  deriving DecidableEq

structure RiskSettings where
  maxPositionSize : Binary64
  maxDrawdown : Binary64
  deriving DecidableEq

structure StrategyDefaults where
  version : String
  tags : List String
  deriving DecidableEq

structure Defaults where
  execution : ExecutionSettings
  risk : RiskSettings
  strategy : StrategyDefaults
  frequency : String
  fileType : String
  deriving DecidableEq

namespace Defaults

/-- Built-in values: a slippage of 0.001, a commission of 0.0003, positions up to 0.2 and drawdowns
up to 0.1, version 1.0 tagged as an example and a test, daily data, files of unknown type. -/
def builtIn : Defaults where
  execution := ⟨.ofDecimal false 1 (-3), .ofDecimal false 3 (-4)⟩
  risk := ⟨.ofDecimal false 2 (-1), .ofDecimal false 1 (-1)⟩
  strategy := ⟨"1.0", ["example", "test"]⟩
  frequency := "1d"
  fileType := "unknown"

/-- A setting by the kind of its value, with the way to put a value into the defaults. -/
inductive Setting where
  | float (put : Binary64 → Defaults → Defaults)
  | string (put : String → Defaults → Defaults)
  | strings (put : List String → Defaults → Defaults)

structure Section where
  name : String
  /-- What the group is called in messages. -/
  title : String
  settings : List (String × Setting)

def sections : List Section := [
  ⟨"execution_settings", "ExecutionSettings", [
    ("slippage", .float fun x d => { d with execution.slippage := x }),
    ("commission", .float fun x d => { d with execution.commission := x })]⟩,
  ⟨"risk_settings", "RiskSettings", [
    ("max_position_size", .float fun x d => { d with risk.maxPositionSize := x }),
    ("max_drawdown", .float fun x d => { d with risk.maxDrawdown := x })]⟩,
  ⟨"strategy", "StrategyDefaults", [
    ("version", .string fun s d => { d with strategy.version := s }),
    ("tags", .strings fun s d => { d with strategy.tags := s })]⟩,
  ⟨"data", "DataDefaults", [
    ("frequency", .string fun s d => { d with frequency := s })]⟩,
  ⟨"file", "FileDefaults", [
    ("file_type", .string fun s d => { d with fileType := s })]⟩]

def title : String := "TemplateDefaults"

/-- A float as JSON has it; one that is not finite is `null`. -/
def floatJson : Binary64 → Json
  | .finite r => .number (.real r)
  | _ => .null

def stringsJson (items : List String) : Json :=
  .array (items.map .string)

def executionJson (s : ExecutionSettings) : Json :=
  .object [("slippage", floatJson s.slippage), ("commission", floatJson s.commission)]

def riskJson (s : RiskSettings) : Json :=
  .object [("max_position_size", floatJson s.maxPositionSize),
    ("max_drawdown", floatJson s.maxDrawdown)]

def json (d : Defaults) : Json :=
  .object [
    ("execution_settings", executionJson d.execution),
    ("risk_settings", riskJson d.risk),
    ("strategy", .object [
      ("version", .string d.strategy.version), ("tags", stringsJson d.strategy.tags)]),
    ("data", .object [("frequency", .string d.frequency)]),
    ("file", .object [("file_type", .string d.fileType)])]

def Setting.read : Setting → Nat → Defaults → List UInt8 → Json.Answer Defaults
  | .float put, _, d, input =>
    (Json.readFloat input).map fun (x, rest) => (put (.finite x) d, rest)
  | .string put, _, d, input => (Json.readString input).map fun (s, rest) => (put s d, rest)
  | .strings put, depth, d, input =>
    (Json.readStrings depth input).map fun (s, rest) => (put s d, rest)

def Section.record (s : Section) : Json.Record Defaults where
  name := s.title
  fields := s.settings.map fun (name, setting) => ⟨name, false, setting.read⟩

def record : Json.Record Defaults where
  name := title
  fields := sections.map fun s => ⟨s.name, false, s.record.read⟩

def ofJson (input : List UInt8) : Except Json.Failure Defaults :=
  record.readWhole builtIn input

end Defaults

end TopicGateway.Message
