import TopicGateway.Text.Blank

/-! Keys that match nothing. A broker drops a message whose routing key matches no binding. The
policy says whether a caller's message of this kind is sent all the same, or refused. -/

namespace TopicGateway.Config

inductive UnroutablePolicy where
  | warn
  | reject
  deriving DecidableEq

namespace UnroutablePolicy

def name : UnroutablePolicy → String
  | .warn => "warn"
  | .reject => "reject"

/-- A policy by its name, without regard to ASCII case and to blanks around it. -/
def parse (s : String) : Except String UnroutablePolicy :=
  let given := Text.lowerAscii (Text.trim s)
  if given = "warn" then .ok .warn
  else if given = "reject" then .ok .reject
  else .error ("unrecognised policy '" ++ given ++ "'; expected one of: warn | reject")

end UnroutablePolicy

end TopicGateway.Config
