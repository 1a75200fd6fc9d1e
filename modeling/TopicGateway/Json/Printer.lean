import TopicGateway.Json.Basic
import TopicGateway.Text.Utf8

/-! Writing JSON. Every writer puts its bytes in front of a tail. There are no spaces, members stand
in their given order, and inside a text only the quote, the backslash and the control characters are
escaped. -/

namespace TopicGateway.Json

def hexDigit (n : Nat) : UInt8 :=
  if n < 10 then UInt8.ofNat (48 + n) else UInt8.ofNat (87 + n)

def escapeByte (b : UInt8) : List UInt8 :=
  if b = 0x22 then [0x5c, 0x22]
  else if b = 0x5c then [0x5c, 0x5c]
  else if b = 0x08 then [0x5c, 0x62]
  else if b = 0x09 then [0x5c, 0x74]
  else if b = 0x0a then [0x5c, 0x6e]
  else if b = 0x0c then [0x5c, 0x66]
  else if b = 0x0d then [0x5c, 0x72]
  else if b < 0x20 then
    [0x5c, 0x75, 0x30, 0x30, hexDigit (b.toNat / 16), hexDigit (b.toNat % 16)]
  else [b]

def escape (bs : List UInt8) (tail : List UInt8) : List UInt8 :=
  bs.foldr (fun b tail => escapeByte b ++ tail) tail

def ascii (s : String) : List UInt8 :=
  Text.Utf8.encode s

def writeString (s : String) (tail : List UInt8) : List UInt8 :=
  0x22 :: escape (Text.Utf8.encode s) (0x22 :: tail)

mutual

def write : Json → List UInt8 → List UInt8
  | .null, tail => ascii "null" ++ tail
  | .bool true, tail => ascii "true" ++ tail
  | .bool false, tail => ascii "false" ++ tail
  | .number n, tail => ascii n.text ++ tail
  | .string s, tail => writeString s tail
  | .array items, tail => 0x5b :: writeItems items (0x5d :: tail)
  | .object members, tail => 0x7b :: writeMembers members (0x7d :: tail)

def writeItems : List Json → List UInt8 → List UInt8
  | [], tail => tail
  | [j], tail => write j tail
  | j :: items, tail => write j (0x2c :: writeItems items tail)

def writeMembers : List (String × Json) → List UInt8 → List UInt8
  | [], tail => tail
  | [(name, j)], tail => writeString name (0x3a :: write j tail)
  | (name, j) :: members, tail =>
    writeString name (0x3a :: write j (0x2c :: writeMembers members tail))

end

def bytes (j : Json) : List UInt8 :=
  j.write []

def text (j : Json) : String :=
  (Text.Utf8.decode? j.bytes).getD ""

end TopicGateway.Json
