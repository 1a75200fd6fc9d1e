import TopicGateway.Yaml.Fault

/-! Tokens. The smallest units of a YAML text. Indentation shows as tokens of its own: a block
collection starts where a line is indented more than the one around it, and ends where the
indentation goes back. -/

namespace TopicGateway.Yaml

inductive ScalarStyle where
  | plain
  | singleQuoted
  | doubleQuoted
  | literal
  | folded
  deriving DecidableEq

inductive Lexeme where
  | streamStart
  | streamEnd
  | versionDirective (major minor : Nat)
  | tagDirective (handle uri : String)
  | documentStart
  | documentEnd
  | blockSequenceStart
  | blockMappingStart
  | blockEnd
  | flowSequenceStart
  | flowSequenceEnd
  | flowMappingStart
  | flowMappingEnd
  | blockEntry
  | flowEntry
  | key
  | value
  | reference (anchor : String)
  | anchor (name : String)
  | tag (handle suffix : String)
  | scalar (text : String) (style : ScalarStyle)
  deriving DecidableEq

structure Token where
  lexeme : Lexeme
  start : Mark
  stop : Mark
  deriving DecidableEq

abbrev Scan (α : Type) := Except Fault (α × Cursor)

/-- A fault at `mark` in something that began at `start`. -/
def fault {α : Type} (activity : Activity) (start : Mark) (problem : Problem) (mark : Mark) :
    Except Fault α :=
  .error (.malformed problem mark (some (activity, start)))

end TopicGateway.Yaml
