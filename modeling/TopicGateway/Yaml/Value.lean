import TopicGateway.Yaml.Document

/-! What a scalar stands for. A plain scalar without a tag is nothing, a truth value, an integer, a
float or a text, in this order. Digits after a leading zero are a text. A tag fixes the kind. -/

namespace TopicGateway.Yaml

def dropPlus : List Char → List Char
  | '+' :: cs => cs
  | cs => cs

def isSign (c : Char) : Bool :=
  c = '+' || c = '-'

/-- The digits of an integer with a base, and the base: 16, 8 and 2 have a marker. -/
def withBase? : List Char → Option (Nat × List Char)
  | '0' :: 'x' :: cs => some (16, cs)
  | '0' :: 'o' :: cs => some (8, cs)
  | '0' :: 'b' :: cs => some (2, cs)
  | _ => none

def digitsValue? (base : Nat) (cs : List Char) : Option Nat :=
  if cs.isEmpty then none
  else
    cs.foldl
      (fun n c => n.bind fun n =>
        (Text.hexDigit? c).bind fun d => if d.val < base then some (base * n + d.val) else none)
      (some 0)

/-- More than one digit, the first of them zero. -/
def isZeroLed (cs : List Char) : Bool :=
  let cs := if startsWith isSign cs then cs.drop 1 else cs
  1 < cs.length && startsWith (· = '0') cs && cs.all Char.isDigit

def magnitude? (cs : List Char) : Option Nat :=
  match withBase? cs with
  | some (base, ds) => digitsValue? base ds
  | none => if isZeroLed cs then none else digitsValue? 10 cs

def integer? (cs : List Char) : Option Int :=
  match cs with
  | '-' :: cs => (magnitude? cs).map fun n => -(n : Int)
  | _ => (magnitude? (dropPlus cs)).map fun n => (n : Int)

/-- An integer as messages name it: of 64 bits, of 128 bits, or none that can be named. -/
def namedInteger? (cs : List Char) : Option Found :=
  (integer? cs).bind fun n =>
    if -2 ^ 63 ≤ n ∧ n < 2 ^ 64 then some (.integer n)
    else if -2 ^ 127 ≤ n ∧ n < 2 ^ 128 then some (.wide n)
    else none

structure Decimal where
  negative : Bool
  digits : Nat
  exponent : Int

/-- The exponent of ten after `e`; without one it is zero. -/
def decimalExponent? : List Char → Option Int
  | [] => some 0
  | c :: cs =>
    if c = 'e' ∨ c = 'E' then
      match cs with
      | '-' :: ds => (digitsValue? 10 ds).map fun n => -(n : Int)
      | _ => (digitsValue? 10 (dropPlus cs)).map fun n => (n : Int)
    else none

/-- Digits with a point among, before or behind them, then an exponent. -/
def decimal? (cs : List Char) : Option Decimal :=
  let (negative, cs) := match cs with
    | '-' :: cs => (true, cs)
    | _ => (false, cs)
  let whole := cs.takeWhile Char.isDigit
  let cs := cs.dropWhile Char.isDigit
  let (fraction, cs) := match cs with
    | '.' :: cs => (cs.takeWhile Char.isDigit, cs.dropWhile Char.isDigit)
    | _ => ([], cs)
  match digitsValue? 10 (whole ++ fraction), decimalExponent? cs with
  | some n, some e => some ⟨negative, n, e - (fraction.length : Int)⟩
  | _, _ => none

/-- The float that a text stands for. One that is too large for a finite number is no float. -/
def float? (cs : List Char) : Option Binary64 :=
  let signless := dropPlus cs
  if startsWith (· = '+') cs && startsWith isSign signless then none
  else
    let s := String.ofList signless
    if s = ".inf" ∨ s = ".Inf" ∨ s = ".INF" then some (.infinite false)
    else if s = "-.inf" ∨ s = "-.Inf" ∨ s = "-.INF" then some (.infinite true)
    else if String.ofList cs = ".nan" ∨ String.ofList cs = ".NaN" ∨ String.ofList cs = ".NAN" then
      some .nan
    else
      (decimal? signless).bind fun d =>
        (Real64.ofDecimal? d.negative d.digits d.exponent).map .finite

def isNull (s : String) : Bool :=
  s = "null" || s = "Null" || s = "NULL" || s = "~"

def bool? (s : String) : Option Bool :=
  if s = "true" ∨ s = "True" ∨ s = "TRUE" then some true
  else if s = "false" ∨ s = "False" ∨ s = "FALSE" then some false
  else none

namespace Scalar

def plainFound (s : String) : Found :=
  if s.isEmpty || isNull s then .absent
  else
    match bool? s with
    | some b => .bool b
    | none =>
      match namedInteger? s.toList with
      | some n => n
      | none =>
        match (if isZeroLed s.toList then none else float? s.toList) with
        | some r => .real r
        | none => .text s

def boolTag : String := "tag:yaml.org,2002:bool"
def intTag : String := "tag:yaml.org,2002:int"
def floatTag : String := "tag:yaml.org,2002:float"
def nullTag : String := "tag:yaml.org,2002:null"

/-- Why a scalar is not what is expected: what it stands for is of another kind, or it does not have
the kind of its tag. -/
def mismatch (s : Scalar) (expected : String) : Mismatch :=
  let tagged (found : Option Found) (kind : String) : Mismatch :=
    match found with
    | some found => .wrongKind found expected
    | none => .wrongValue (.text s.text) kind
  let untagged : Mismatch :=
    .wrongKind (if s.style = .plain then plainFound s.text else .text s.text) expected
  match s.tag with
  | none => untagged
  | some tag =>
    if tag = boolTag then tagged ((bool? s.text).map .bool) "a boolean"
    else if tag = intTag then tagged (namedInteger? s.text.toList) "an integer"
    else if tag = floatTag then tagged ((float? s.text.toList).map .real) "a float"
    else if tag = nullTag then tagged (if isNull s.text then some .absent else none) "null"
    else if startsWith (· = '!') tag.toList then untagged
    else .wrongKind (.text s.text) expected

/-- An empty plain scalar, which stands for an empty collection where one is expected. -/
def isEmpty (s : Scalar) : Bool :=
  s.text.isEmpty && s.style = .plain

/-- The scalar as a float: a plain one, or a literal one with the tag of floats. -/
def toFloat? (s : Scalar) : Option Binary64 :=
  if s.style = .plain ∨ (s.style = .literal ∧ s.tag = some floatTag) then float? s.text.toList
  else none

end Scalar

end TopicGateway.Yaml
