import TopicGateway.Number.Binary64

/-! The shortest decimal that reads back. `Magnitude.shortest` looks for the fewest digits whose
decimal has the magnitude as its nearest one, and among two of that length takes the nearer, in a
tie the one with the even last digit. `Real64.text` writes it in plain digits inside a range of
exponents and with an exponent outside. -/

namespace TopicGateway

structure Decimal where
  digits : Nat
  exponent : Int
  deriving DecidableEq, Repr

namespace Decimal

/-- Decimal digits of a natural number, the first one not zero except for zero itself. -/
def digitsOf (n : Nat) : List Char :=
  Nat.toDigits 10 n

/-- Zeros at the end of the digits move into the exponent. -/
def trimZeros : Nat → Decimal → Decimal
  | 0, d => d
  | fuel + 1, d =>
    if d.digits ≠ 0 ∧ d.digits % 10 = 0 then trimZeros fuel ⟨d.digits / 10, d.exponent + 1⟩ else d

end Decimal

namespace Magnitude

/-- `e` with `10 ^ e ≤ value < 10 ^ (e + 1)`, for a magnitude that is not zero. -/
def scale (m : Magnitude) : Int :=
  if one ≤ m.units then ((Decimal.digitsOf (m.units / one)).length : Int) - 1
  else -((Decimal.digitsOf ((one - 1) / m.units)).length : Int)

/-- The value divided by `10 ^ exponent`, as numerator and denominator. -/
def quotient (m : Magnitude) (exponent : Int) : Nat × Nat :=
  if exponent ≥ 0 then (m.units, one * 10 ^ exponent.toNat)
  else (m.units * 10 ^ (-exponent).toNat, one)

def readsBack (m : Magnitude) (d : Decimal) : Bool :=
  ofDecimal? d.digits d.exponent == some m

/-- The decimal with this exponent next to the magnitude that reads back, the nearer one first. -/
def onGrid? (m : Magnitude) (exponent : Int) : Option Decimal :=
  let (num, den) := m.quotient exponent
  let below := num / den
  let rounded := roundDiv num den
  let other := if rounded = below then below + 1 else below
  if m.readsBack ⟨rounded, exponent⟩ then some ⟨rounded, exponent⟩
  else if m.readsBack ⟨other, exponent⟩ then some ⟨other, exponent⟩
  else none

def exactDecimal (m : Magnitude) : Decimal :=
  ⟨m.units * 5 ^ 1074, -1074⟩

/-- The decimal of fewest digits that reads back. -/
def shortest (m : Magnitude) : Decimal :=
  if m.mantissa = 0 then ⟨0, 0⟩
  else
    let scale := m.scale
    let found := (List.range 17).findSome? fun extra => m.onGrid? (scale - (extra : Nat))
    (found.getD m.exactDecimal).trimZeros 800

end Magnitude

/-- Where numbers are written in plain digits, and how an exponent looks. -/
structure FloatLayout where
  /-- The least exponent of the first digit that is written in plain digits. -/
  plainFrom : Int
  /-- The exponent of the first digit from which on plain digits are no longer used. -/
  plainBelow : Int
  /-- What stands before an exponent that is not negative. -/
  exponentSign : String

namespace Decimal

/-- Plain digits with a decimal point, `.0` after a whole number. -/
def plain (digits : List Char) (exponent : Int) : String :=
  if exponent ≥ 0 then
    String.ofList (digits ++ List.replicate exponent.toNat '0' ++ ['.', '0'])
  else
    let places := (-exponent).toNat
    if digits.length ≤ places then
      String.ofList ('0' :: '.' :: (List.replicate (places - digits.length) '0' ++ digits))
    else
      String.ofList
        (digits.take (digits.length - places) ++ '.' :: digits.drop (digits.length - places))

/-- One digit before the point, the others after it, and the exponent of the first. -/
def scientific (layout : FloatLayout) (digits : List Char) (first : Int) : String :=
  let lead := digits.take 1
  let others := digits.drop 1
  let mantissa := if others.isEmpty then lead else lead ++ '.' :: others
  let sign := if first < 0 then "-" else layout.exponentSign
  String.ofList mantissa ++ "e" ++ sign ++ toString first.natAbs

def text (layout : FloatLayout) (d : Decimal) : String :=
  let digits := digitsOf d.digits
  if d.digits = 0 then "0.0"
  else
    let first := d.exponent + (digits.length : Int) - 1
    if layout.plainFrom ≤ first ∧ first < layout.plainBelow then plain digits d.exponent
    else scientific layout digits first

end Decimal

def Real64.textWith (layout : FloatLayout) (r : Real64) : String :=
  let unsigned := r.magnitude.shortest.text layout
  if r.negative then "-" ++ unsigned else unsigned

/-- JSON numbers: plain digits from 0.00001 up to below 10^16. -/
def FloatLayout.json : FloatLayout := ⟨-5, 16, "+"⟩

/-- Messages of the configuration file's reader: plain digits always. -/
def FloatLayout.alwaysPlain : FloatLayout := ⟨-400, 400, ""⟩

def Real64.text (r : Real64) : String :=
  r.textWith .json

/-- Plain digits always; the numbers that are not finite by name. -/
def Binary64.plainText : Binary64 → String
  | .finite r => r.textWith .alwaysPlain
  | .infinite false => "inf"
  | .infinite true => "-inf"
  | .nan => "NaN"

end TopicGateway
