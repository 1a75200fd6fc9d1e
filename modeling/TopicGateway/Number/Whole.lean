import TopicGateway.Number.Binary64

/-! Whole numbers below a limit. Decimal digits, with a plus sign in front allowed. Digits are read
from the left: the first character that is no digit, or that takes the number over the limit,
decides what is said. -/

namespace TopicGateway.Whole

inductive Fault where
  | empty
  | invalidDigit
  | tooLarge
  deriving DecidableEq

def Fault.message : Fault → String
  | .empty => "cannot parse integer from empty string"
  | .invalidDigit => "invalid digit found in string"
  | .tooLarge => "number too large to fit in target type"

def digits (limit : Nat) : Nat → List Char → Except Fault Nat
  | n, [] => .ok n
  | n, c :: cs =>
    if c.isDigit then
      let more := 10 * n + (c.toNat - 0x30)
      if more ≤ limit then digits limit more cs else .error .tooLarge
    else .error .invalidDigit

def parse (limit : Nat) : List Char → Except Fault Nat
  | [] => .error .empty
  | ['+'] => .error .invalidDigit
  | '+' :: cs => digits limit 0 cs
  | cs => digits limit 0 cs

def parse16 (s : String) : Except Fault UInt16 :=
  (parse (2 ^ 16 - 1) s.toList).map UInt16.ofNat

end TopicGateway.Whole
