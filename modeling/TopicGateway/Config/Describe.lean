import TopicGateway.Config.Resolve
import TopicGateway.Number.Shortest

/-! Settings in logs. All members of the settings by name, records inside records. Where the
broker's settings stand, `Access.describe` stands for them, which leaves the password out. -/

namespace TopicGateway

/-- Messages: plain digits from 0.0001 up to below 10^16. -/
def FloatLayout.logged : FloatLayout := ⟨-4, 16, ""⟩

def Binary64.describe : Binary64 → String
  | .finite r => r.textWith .logged
  | .infinite false => "inf"
  | .infinite true => "-inf"
  | .nan => "NaN"

namespace Config

def described (name : String) (members : List (String × String)) : String :=
  name ++ " \x7b " ++ ", ".intercalate (members.map fun (member, value) => member ++ ": " ++ value) ++
    " \x7d"

def describedList (items : List String) : String :=
  "[" ++ ", ".intercalate items ++ "]"

def UnroutablePolicy.describe : UnroutablePolicy → String
  | .warn => "Warn"
  | .reject => "Reject"

def describedDefaults (d : Message.Defaults) : String :=
  described Message.Defaults.title [
    ("execution_settings", described "ExecutionSettings" [
      ("slippage", d.execution.slippage.describe),
      ("commission", d.execution.commission.describe)]),
    ("risk_settings", described "RiskSettings" [
      ("max_position_size", d.risk.maxPositionSize.describe),
      ("max_drawdown", d.risk.maxDrawdown.describe)]),
    ("strategy", described "StrategyDefaults" [
      ("version", Text.quoted d.strategy.version),
      ("tags", describedList (d.strategy.tags.map Text.quoted))]),
    ("data", described "DataDefaults" [("frequency", Text.quoted d.frequency)]),
    ("file", described "FileDefaults" [("file_type", Text.quoted d.fileType)])]

def Settings.describe (s : Settings) : String :=
  described "GatewayConfig" [
    ("bind_addr", s.bind.text),
    ("broker", s.broker.describe),
    ("defaults", describedDefaults s.defaults),
    ("unroutable_policy", s.policy.describe)]

end Config

end TopicGateway
