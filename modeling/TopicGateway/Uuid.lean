import TopicGateway.Text.Hex

/-! Universally unique identifiers. An identifier is its 32 hexadecimal digits. It is written in
five groups with hyphens and read in four forms: bare digits, five groups, and five groups in braces
or behind `urn:uuid:`. -/

namespace TopicGateway

structure Uuid where
  digits : List (Fin 16)
  length_digits : digits.length = 32
  deriving DecidableEq

namespace Uuid

/-- The identifier whose digits are all zero. -/
def zero : Uuid := ⟨List.replicate 32 ⟨0, by decide⟩, by simp⟩

def ofDigits? (digits : List (Fin 16)) : Option Uuid :=
  if h : digits.length = 32 then some ⟨digits, h⟩ else none

/-- The written form: groups of 8, 4, 4, 4 and 12 digits. -/
def chars (u : Uuid) : List Char :=
  let written := u.digits.map Text.hexChar
  written.take 8 ++ '-' :: ((written.drop 8).take 4 ++ '-' :: ((written.drop 12).take 4 ++
    '-' :: ((written.drop 16).take 4 ++ '-' :: written.drop 20)))

def text (u : Uuid) : String :=
  String.ofList u.chars

def digitsOf? (cs : List Char) : Option (List (Fin 16)) :=
  cs.mapM Text.hexDigit?

def hyphenPlaces : List Nat := [8, 13, 18, 23]

def ofGroups? (cs : List Char) : Option Uuid :=
  if cs.length = 36 ∧ hyphenPlaces.all fun i => cs[i]? == some '-' then
    (digitsOf? (cs.take 8 ++ (cs.drop 9).take 4 ++ (cs.drop 14).take 4 ++ (cs.drop 19).take 4 ++
      cs.drop 24)).bind ofDigits?
  else none

/-- What stands in front of the groups in the longest form, in lower case. -/
def urn : List Char :=
  "urn:uuid:".toList

/-- Groups in braces or behind `urn:uuid:`, with the number of characters in front of them. -/
def unwrap? (cs : List Char) : Option (List Char × Nat) :=
  match cs with
  | '\x7b' :: rest =>
    if rest.getLast? = some '\x7d' then some (rest.dropLast, 1) else none
  | _ =>
    if (cs.take urn.length).map Char.toLower = urn then some (cs.drop urn.length, urn.length)
    else none

def ofChars? (cs : List Char) : Option Uuid :=
  if cs.length = 32 then (digitsOf? cs).bind ofDigits?
  else if cs.length = 36 then ofGroups? cs
  else (unwrap? cs).bind fun (groups, _) => ofGroups? groups

inductive Fault where
  | badCharacter (c : Char) (offset : Nat)
  | badLength (length : Nat)
  | badGroupCount (count : Nat)
  | badGroupLength (group expected found : Nat)
  deriving DecidableEq

def Fault.message : Fault → String
  | .badCharacter c offset =>
    "invalid character: found `" ++ c.toString ++ "` at " ++ toString offset
  | .badLength length => "invalid length: found " ++ toString length
  | .badGroupCount count => "invalid group count: expected 5, found " ++ toString count
  | .badGroupLength group expected found =>
    "invalid group length in group " ++ toString group ++ ": expected " ++ toString expected ++
      ", found " ++ toString found

def byteLength (cs : List Char) : Nat :=
  cs.foldl (fun n c => n + c.utf8Size) 0

/-- The first character that is neither digit nor hyphen, with the bytes in front of it. -/
def strange? (offset : Nat) : List Char → Option (Char × Nat)
  | [] => none
  | c :: cs =>
    if c = '-' ∨ (Text.hexDigit? c).isSome then strange? (offset + c.utf8Size) cs
    else some (c, offset)

def hyphens (cs : List Char) : List Nat :=
  cs.zipIdx.filterMap fun (c, i) => if c = '-' then some i else none

def groups : List (Nat × Nat) :=
  [(0, 8), (9, 4), (14, 4), (19, 4)]

def misplaced? : Nat → List Nat → List (Nat × Nat) → Option Fault
  | i, place :: places, (start, expected) :: rest =>
    if place = start + expected then misplaced? (i + 1) places rest
    else some (.badGroupLength i expected (place - start))
  | _, _, _ => none

def faultOf (cs : List Char) : Fault :=
  let (inner, offset, bare) :=
    match unwrap? cs with
    | some (inner, offset) => (inner, offset, false)
    | none => (cs, 0, true)
  match strange? offset inner with
  | some (c, place) => .badCharacter c place
  | none =>
    let places := hyphens inner
    if places.isEmpty && bare then .badLength (byteLength cs)
    else if places.length ≠ 4 then .badGroupCount (places.length + 1)
    else (misplaced? 0 places groups).getD (.badGroupLength 4 12 (byteLength cs - 24))

def parse (s : String) : Except Fault Uuid :=
  match ofChars? s.toList with
  | some u => .ok u
  | none => .error (faultOf s.toList)

end Uuid

end TopicGateway
