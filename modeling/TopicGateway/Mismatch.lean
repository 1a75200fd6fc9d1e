import TopicGateway.Number.Shortest
import TopicGateway.Text.Quoted

/-! Well-formed text of the wrong shape. Reading a record from JSON or YAML can find a value of the
wrong kind, a member that is missing or given twice, too short a list, or a text that is refused.
The wording is shared; how an absent value and a float are named is each format's own. -/

namespace TopicGateway

inductive Found where
  | absent
  | bool (b : Bool)
  | integer (n : Int)
  /-- An integer that only a word of 128 bits holds; one without a sign unless it is negative. -/
  | wide (n : Int)
  | real (r : Binary64)
  | text (s : String)
  | list
  | object
  deriving DecidableEq

inductive Mismatch where
  | wrongKind (found : Found) (expected : String)
  /-- A value of the right kind that does not stand for what is expected. -/
  | wrongValue (found : Found) (expected : String)
  | missing (name : String)
  | duplicate (name : String)
  | tooShort (length : Nat) (expected : String)
  | refused (reason : String)
  deriving DecidableEq

structure Wording where
  absent : String
  real : Binary64 → String

def Found.describe (w : Wording) : Found → String
  | .absent => w.absent
  | .bool true => "boolean `true`"
  | .bool false => "boolean `false`"
  | .integer n => "integer `" ++ toString n ++ "`"
  | .wide n => "integer `" ++ toString n ++ "` as " ++ (if n < 0 then "i128" else "u128")
  | .real r => "floating point `" ++ w.real r ++ "`"
  | .text s => "string " ++ Text.quoted s
  | .list => "sequence"
  | .object => "map"

def Mismatch.message (w : Wording) : Mismatch → String
  | .wrongKind found expected =>
    "invalid type: " ++ found.describe w ++ ", expected " ++ expected
  | .wrongValue found expected =>
    "invalid value: " ++ found.describe w ++ ", expected " ++ expected
  | .missing name => "missing field `" ++ name ++ "`"
  | .duplicate name => "duplicate field `" ++ name ++ "`"
  | .tooShort length expected =>
    "invalid length " ++ toString length ++ ", expected " ++ expected
  | .refused reason => reason

end TopicGateway
