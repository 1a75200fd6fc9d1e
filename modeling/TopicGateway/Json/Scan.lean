import TopicGateway.Json.Fault
import TopicGateway.Number.Scaling
import TopicGateway.Text.Utf8

/-! Blanks, words, texts and numbers of JSON. Each reader takes the bytes in front of it and gives
what it read with the bytes after it, or a failure with the bytes that were left when it arose. -/

namespace TopicGateway.Json

abbrev Answer (α : Type) := Except Failure (α × List UInt8)

def isBlank (b : UInt8) : Bool :=
  b == 0x20 || b == 0x09 || b == 0x0a || b == 0x0d

def skipBlank (input : List UInt8) : List UInt8 :=
  input.dropWhile isBlank

def isDigit (b : UInt8) : Bool :=
  0x30 ≤ b && b ≤ 0x39

def word {α : Type} (meaning : α) : List UInt8 → List UInt8 → Answer α
  | [], input => .ok (meaning, input)
  | _ :: _, [] => fail .endInValue []
  | expected :: letters, b :: rest =>
    if b = expected then word meaning letters rest else fail .expectedWord rest

def nullTail : List UInt8 := [0x75, 0x6c, 0x6c]

def trueTail : List UInt8 := [0x72, 0x75, 0x65]

def falseTail : List UInt8 := [0x61, 0x6c, 0x73, 0x65]

def hexValue? (b : UInt8) : Option Nat :=
  if isDigit b then some (b.toNat - 0x30)
  else if 0x61 ≤ b && b ≤ 0x66 then some (b.toNat - 0x57)
  else if 0x41 ≤ b && b ≤ 0x46 then some (b.toNat - 0x37)
  else none

def hexUnit? (a b c d : UInt8) : Option Nat := do
  return (← hexValue? a) * 4096 + (← hexValue? b) * 256 + (← hexValue? c) * 16 + (← hexValue? d)

/-- The UTF-8 bytes of a code point, last byte first. -/
def utf8Reversed (n : Nat) : List UInt8 :=
  (String.utf8EncodeChar (Char.ofNat n)).reverse

def simpleEscape? (b : UInt8) : Option UInt8 :=
  if b = 0x22 then some 0x22
  else if b = 0x5c then some 0x5c
  else if b = 0x2f then some 0x2f
  else if b = 0x62 then some 0x08
  else if b = 0x66 then some 0x0c
  else if b = 0x6e then some 0x0a
  else if b = 0x72 then some 0x0d
  else if b = 0x74 then some 0x09
  else none

def isLeading (n : Nat) : Bool := 0xd800 ≤ n && n ≤ 0xdbff

def isTrailing (n : Nat) : Bool := 0xdc00 ≤ n && n ≤ 0xdfff

def pairValue (leading trailing : Nat) : Nat :=
  (leading - 0xd800) * 1024 + (trailing - 0xdc00) + 0x10000

/-- The bytes up to the closing quote with escapes undone; `seen` holds what was read, last byte
first. -/
def textBytes (seen : List UInt8) : List UInt8 → Answer (List UInt8)
  | [] => fail .endInText []
  | 0x22 :: rest => .ok (seen.reverse, rest)
  | 0x5c :: 0x75 :: a :: b :: c :: d :: rest =>
    match hexUnit? a b c d with
    | none => fail .badEscape rest
    | some n =>
      if isTrailing n then fail .loneSurrogate rest
      else if isLeading n then
        match rest with
        | 0x5c :: 0x75 :: a' :: b' :: c' :: d' :: rest' =>
          match hexUnit? a' b' c' d' with
          | none => fail .badEscape rest'
          | some n' =>
            if isTrailing n' then textBytes (utf8Reversed (pairValue n n') ++ seen) rest'
            else fail .loneSurrogate rest'
        | 0x5c :: 0x75 :: _ => fail .endInText []
        | 0x5c :: _ :: rest' => fail .escapeCutShort rest'
        | 0x5c :: [] => fail .endInText []
        | _ :: rest' => fail .escapeCutShort rest'
        | [] => fail .endInText []
      else textBytes (utf8Reversed n ++ seen) rest
  | 0x5c :: 0x75 :: _ => fail .endInText []
  | 0x5c :: b :: rest =>
    match simpleEscape? b with
    | some e => textBytes (e :: seen) rest
    | none => fail .badEscape rest
  | 0x5c :: [] => fail .endInText []
  | b :: rest => if b < 0x20 then fail .controlCharacter rest else textBytes (b :: seen) rest

/-- A text whose opening quote has been read. Bytes that are no UTF-8 fail at the first of them. -/
def readText (input : List UInt8) : Answer String :=
  match textBytes [] input with
  | .error e => .error e
  | .ok (bs, rest) =>
    match Text.Utf8.decode? bs with
    | some s => .ok (s, rest)
    | none => fail .badUtf8 (input.drop (Text.Utf8.validLength input + 1))

/-- Passes over a text whose opening quote has been read; its bytes are not decoded. -/
def skipText : List UInt8 → Except Failure (List UInt8)
  | [] => .error ⟨.endInText, []⟩
  | 0x22 :: rest => .ok rest
  | 0x5c :: 0x75 :: a :: b :: c :: d :: rest =>
    match hexUnit? a b c d with
    | none => .error ⟨.badEscape, rest⟩
    | some _ => skipText rest
  | 0x5c :: 0x75 :: _ => .error ⟨.endInText, []⟩
  | 0x5c :: b :: rest =>
    match simpleEscape? b with
    | some _ => skipText rest
    | none => .error ⟨.badEscape, rest⟩
  | 0x5c :: [] => .error ⟨.endInText, []⟩
  | b :: rest => if b < 0x20 then .error ⟨.controlCharacter, b :: rest⟩ else skipText rest

def digitsValue (digits : List UInt8) : Nat :=
  digits.foldl (fun n d => n * 10 + (d.toNat - 0x30)) 0

/-- The digits before the point; the first is zero only when it is alone. -/
def wholeDigits : List UInt8 → Answer (List UInt8)
  | [] => fail .endInValue []
  | b :: rest =>
    if b = 0x30 then
      match rest with
      | c :: rest' => if isDigit c then fail .badNumber rest' else .ok ([b], rest)
      | [] => .ok ([b], [])
    else if isDigit b then .ok (b :: rest.takeWhile isDigit, rest.dropWhile isDigit)
    else fail .badNumber rest

def fractionDigits (input : List UInt8) : Answer (List UInt8) :=
  match input with
  | [] => fail .endInValue []
  | b :: rest =>
    if isDigit b then .ok (input.takeWhile isDigit, input.dropWhile isDigit)
    else fail .badNumber rest

def exponentLimit : Nat := 2147483647

/-- The digits of an exponent. One beyond the limit ends the number at the digit that passes it,
except where the number is zero or the exponent negative. -/
def exponentValue (checked : Bool) (value : Nat) : List UInt8 → Answer Nat
  | [] => .ok (value, [])
  | b :: rest =>
    if isDigit b then
      let next := value * 10 + (b.toNat - 0x30)
      if checked && exponentLimit < next then fail .numberRange rest
      else exponentValue checked next rest
    else .ok (value, b :: rest)

/-- An exponent after its `e`: an optional sign and at least one digit. -/
def exponent (zero : Bool) (input : List UInt8) : Answer Int :=
  let (negative, digits) : Bool × List UInt8 :=
    match input with
    | 0x2b :: rest => (false, rest)
    | 0x2d :: rest => (true, rest)
    | _ => (false, input)
  match digits with
  | [] => fail .endInValue []
  | b :: rest =>
    if isDigit b then
      match exponentValue (!zero && !negative) 0 digits with
      | .ok (n, rest) => .ok (if negative then -(n : Int) else n, rest)
      | .error e => .error e
    else fail .badNumber rest

/-- Takes digits up behind a number for as long as it fits 64 bits, and gives those left over too. -/
def takeDigits (n : Nat) : List UInt8 → Nat × List UInt8
  | [] => (n, [])
  | d :: digits =>
    let next := n * 10 + (d.toNat - 0x30)
    if next < 2 ^ 64 then takeDigits next digits else (n, d :: digits)

/-- A number as its digits are taken up, `significand * 10 ^ exponent`. -/
structure Taken where
  significand : Nat
  exponent : Int

/-- A digit before the point that is not taken up counts as a zero, one behind it as nothing. -/
def taken (whole fraction : List UInt8) : Taken :=
  let (front, dropped) := takeDigits 0 whole
  let (all, ignored) := takeDigits front fraction
  ⟨all, (dropped.length + ignored.length : Nat) - (fraction.length : Int)⟩

/-- The magnitude `whole.fraction * 10 ^ exponent` as it is computed, if it is finite. -/
def magnitude? (whole fraction : List UInt8) (exponent : Int) : Option Magnitude :=
  let taken := taken whole fraction
  Magnitude.scaled? taken.significand (taken.exponent + exponent)

def realNumber (negative : Bool) (whole fraction : List UInt8) (exponent : Int)
    (rest : List UInt8) : Answer Number :=
  match magnitude? whole fraction exponent with
  | some m => .ok (.real ⟨negative, m⟩, rest)
  | none => fail .numberRange rest

def signed (negative : Bool) (n : Nat) : Int :=
  if negative then -n else n

/-- A whole number with its sign, a double outside the range of integers; so is `-0`. -/
def wholeNumber (negative : Bool) (digits : List UInt8) (rest : List UInt8) : Answer Number :=
  let n := digitsValue digits
  if negative && n == 0 then .ok (.real ⟨true, .zero⟩, rest)
  else if fits : -2 ^ 63 ≤ signed negative n ∧ signed negative n < 2 ^ 64 then
    .ok (.integer (signed negative n) fits, rest)
  else realNumber negative digits [] 0 rest

/-- What may follow the digits before the point. -/
def numberTail (negative : Bool) (whole : List UInt8) : List UInt8 → Answer Number
  | 0x2e :: rest =>
    match fractionDigits rest with
    | .error e => .error e
    | .ok (fraction, rest) =>
      match rest with
      | b :: rest' =>
        if b = 0x65 ∨ b = 0x45 then
          match exponent ((whole ++ fraction).all (· == 0x30)) rest' with
          | .error e => .error e
          | .ok (e, rest) => realNumber negative whole fraction e rest
        else realNumber negative whole fraction 0 rest
      | [] => realNumber negative whole fraction 0 []
  | b :: rest =>
    if b = 0x65 ∨ b = 0x45 then
      match exponent (whole.all (· == 0x30)) rest with
      | .error e => .error e
      | .ok (e, rest) => realNumber negative whole [] e rest
    else wholeNumber negative whole (b :: rest)
  | [] => wholeNumber negative whole []

def readNumber (negative : Bool) (input : List UInt8) : Answer Number :=
  match wholeDigits input with
  | .error e => .error e
  | .ok (whole, rest) => numberTail negative whole rest

def skipExponent (input : List UInt8) : Except Failure (List UInt8) :=
  let digits :=
    match input with
    | b :: rest => if b = 0x2b ∨ b = 0x2d then rest else input
    | [] => []
  match digits with
  | [] => .error ⟨.badNumber, []⟩
  | b :: rest => if isDigit b then .ok (rest.dropWhile isDigit) else .error ⟨.badNumber, rest⟩

/-- Passes over a number whose sign has been read, whatever its size. -/
def skipNumber (input : List UInt8) : Except Failure (List UInt8) :=
  let whole : Except Failure (List UInt8) :=
    match input with
    | [] => .error ⟨.badNumber, []⟩
    | b :: rest =>
      if b = 0x30 then
        match rest with
        | c :: rest' => if isDigit c then .error ⟨.badNumber, rest'⟩ else .ok rest
        | [] => .ok []
      else if isDigit b then .ok (rest.dropWhile isDigit)
      else .error ⟨.badNumber, rest⟩
  match whole with
  | .error e => .error e
  | .ok (b :: rest) =>
    if b = 0x2e then
      match rest with
      | c :: rest' =>
        if isDigit c then
          match rest'.dropWhile isDigit with
          | d :: rest'' =>
            if d = 0x65 ∨ d = 0x45 then skipExponent rest'' else .ok (d :: rest'')
          | [] => .ok []
        else .error ⟨.badNumber, rest'⟩
      | [] => .error ⟨.badNumber, []⟩
    else if b = 0x65 ∨ b = 0x45 then skipExponent rest
    else .ok (b :: rest)
  | .ok [] => .ok []

end TopicGateway.Json
