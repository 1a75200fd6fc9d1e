import TopicGateway.Text.Utf8

/-! Base64. The standard alphabet with canonical padding. Three bytes are written as four symbols;
what is left at the end is filled up with `=`. Reading accepts exactly what writing produces, and
names the first thing that is wrong with any other text. -/

namespace TopicGateway.Base64

def symbol (n : Nat) : UInt8 :=
  if n < 26 then UInt8.ofNat (n + 65)
  else if n < 52 then UInt8.ofNat (n + 71)
  else if n < 62 then UInt8.ofNat (n - 4)
  else if n = 62 then 43
  else 47

def value? (b : UInt8) : Option Nat :=
  let n := b.toNat
  if 65 ≤ n ∧ n ≤ 90 then some (n - 65)
  else if 97 ≤ n ∧ n ≤ 122 then some (n - 71)
  else if 48 ≤ n ∧ n ≤ 57 then some (n + 4)
  else if n = 43 then some 62
  else if n = 47 then some 63
  else none

def pad : UInt8 := 61

/-- Writes bytes behind what is there already, last symbol first. -/
def encodeOnto (seen : List UInt8) : List UInt8 → List UInt8
  | a :: b :: c :: rest =>
    let n := (a.toNat * 256 + b.toNat) * 256 + c.toNat
    encodeOnto (symbol (n % 64) :: symbol (n / 64 % 64) :: symbol (n / 4096 % 64) ::
      symbol (n / 262144) :: seen) rest
  | [a, b] =>
    let n := (a.toNat * 256 + b.toNat) * 4
    pad :: symbol (n % 64) :: symbol (n / 64 % 64) :: symbol (n / 4096) :: seen
  | [a] =>
    let n := a.toNat * 16
    pad :: pad :: symbol (n % 64) :: symbol (n / 64) :: seen
  | [] => seen

def encode (bytes : List UInt8) : List UInt8 :=
  (encodeOnto [] bytes).reverse

def text (bytes : List UInt8) : String :=
  String.ofList ((encode bytes).map fun b => Char.ofNat b.toNat)

inductive Fault where
  | badSymbol (symbol : UInt8) (offset : Nat)
  | badLength (length : Nat)
  | badLastSymbol (symbol : UInt8) (offset : Nat)
  | badPadding
  deriving DecidableEq

def Fault.message : Fault → String
  | .badSymbol symbol offset =>
    "Invalid symbol " ++ toString symbol.toNat ++ ", offset " ++ toString offset ++ "."
  | .badLength length => "Invalid input length: " ++ toString length
  | .badLastSymbol symbol offset =>
    "Invalid last symbol " ++ toString symbol.toNat ++ ", offset " ++ toString offset ++ "."
  | .badPadding => "Invalid padding"

/-- The numbers of these symbols, the first of which stands at `offset`. -/
def values (offset : Nat) : List UInt8 → Except Fault (List Nat)
  | [] => .ok []
  | b :: rest =>
    match value? b with
    | none => .error (.badSymbol b offset)
    | some v => (values (offset + 1) rest).map (v :: ·)

/-- The bytes in the numbers of the last group; bits that belong to none of them have to be zero. -/
def lastBytes (offset : Nat) (symbols : List UInt8) : List Nat → Except Fault (List UInt8)
  | [a, b] =>
    if b % 16 = 0 then .ok [UInt8.ofNat (a * 4 + b / 16)]
    else .error (.badLastSymbol (symbols.getD 1 0) (offset + 1))
  | [a, b, c] =>
    if c % 4 = 0 then .ok [UInt8.ofNat (a * 4 + b / 16), UInt8.ofNat (b % 16 * 16 + c / 4)]
    else .error (.badLastSymbol (symbols.getD 2 0) (offset + 2))
  | [a, b, c, d] =>
    .ok [UInt8.ofNat (a * 4 + b / 16), UInt8.ofNat (b % 16 * 16 + c / 4),
      UInt8.ofNat (c % 4 * 64 + d)]
  | _ => .ok []

/-- The last group: at most four symbols, some of them padding. -/
def lastGroup (offset : Nat) (group : List UInt8) : Except Fault (List UInt8) :=
  let symbols := group.takeWhile (· != pad)
  let padding := group.dropWhile (· != pad)
  match values offset symbols with
  | .error e => .error e
  | .ok numbers =>
    if padding ≠ [] ∧ (symbols.length < 2 ∨ padding.any (· != pad)) then
      .error (.badSymbol pad (offset + symbols.length))
    else if group ≠ [] ∧ symbols.length < 2 then .error (.badLength (offset + symbols.length))
    else if (padding.length + symbols.length) % 4 ≠ 0 then .error .badPadding
    else lastBytes offset symbols numbers

/-- Reads groups of four; `seen` holds the bytes before, last byte first. -/
def decodeOnto (offset : Nat) (seen : List UInt8) : List UInt8 → Except Fault (List UInt8)
  | a :: b :: c :: d :: e :: rest =>
    match values offset [a, b, c, d] with
    | .ok [a, b, c, d] =>
      decodeOnto (offset + 4) (UInt8.ofNat (c % 4 * 64 + d) :: UInt8.ofNat (b % 16 * 16 + c / 4) ::
        UInt8.ofNat (a * 4 + b / 16) :: seen) (e :: rest)
    | .ok _ => .error .badPadding
    | .error e => .error e
  | group =>
    match lastGroup offset group with
    | .ok bytes => .ok (seen.reverse ++ bytes)
    | .error e => .error e

/-- A single symbol behind the last whole group that is no symbol at all. -/
def strayEnd? (symbols : List UInt8) : Option Fault :=
  if symbols.length % 4 = 1 then
    match symbols.getLast? with
    | some b =>
      if b ≠ pad ∧ (value? b).isNone then some (.badSymbol b (symbols.length - 1)) else none
    | none => none
  else none

def decode (symbols : List UInt8) : Except Fault (List UInt8) :=
  match strayEnd? symbols with
  | some fault => .error fault
  | none => decodeOnto 0 [] symbols

def decodeText (s : String) : Except Fault (List UInt8) :=
  decode (Text.Utf8.encode s)

end TopicGateway.Base64
