import TopicGateway.Json.Scan

/-! Reading JSON. `Json.read` takes a whole input. Lists and objects may stand inside one another up
to `deepest` levels. The recursion is bounded by a count that the length of the input gives: every
step but the first of a list or an object consumes a byte. -/

namespace TopicGateway.Json

/-- How many lists and objects may be open at once. -/
def deepest : Nat := 127

def scalar (b : UInt8) (rest : List UInt8) : Answer Json :=
  if b = 0x6e then word .null nullTail rest
  else if b = 0x74 then word (.bool true) trueTail rest
  else if b = 0x66 then word (.bool false) falseTail rest
  else if b = 0x22 then (readText rest).map fun (s, rest) => (.string s, rest)
  else if b = 0x2d then (readNumber true rest).map fun (n, rest) => (.number n, rest)
  else if isDigit b then (readNumber false (b :: rest)).map fun (n, rest) => (.number n, rest)
  else fail .expectedValue rest

def colon (input : List UInt8) : Except Failure (List UInt8) :=
  match skipBlank input with
  | [] => .error ⟨.endInObject, []⟩
  | b :: rest => if b = 0x3a then .ok rest else .error ⟨.expectedColon, rest⟩

def memberName : List UInt8 → Answer String
  | [] => fail .endInValue []
  | b :: rest =>
    if b = 0x22 then
      match readText rest with
      | .error e => .error e
      | .ok (name, rest) =>
        match colon rest with
        | .error e => .error e
        | .ok rest => .ok (name, rest)
    else fail .nameNotText rest

mutual

/-- A value, with `depth` levels still allowed. -/
def valueWithin : Nat → Nat → List UInt8 → Answer Json
  | 0, _, input => fail .endInValue input
  | fuel + 1, depth, input =>
    match skipBlank input with
    | [] => fail .endInValue []
    | b :: rest =>
      if b = 0x5b then
        match depth with
        | 0 => fail .tooDeep rest
        | depth + 1 =>
          match skipBlank rest with
          | [] => fail .endInList []
          | c :: rest' =>
            if c = 0x5d then .ok (.array [], rest') else itemsWithin fuel depth [] (c :: rest')
      else if b = 0x7b then
        match depth with
        | 0 => fail .tooDeep rest
        | depth + 1 =>
          match skipBlank rest with
          | [] => fail .endInObject []
          | c :: rest' =>
            if c = 0x7d then .ok (.object [], rest')
            else membersWithin fuel depth [] (c :: rest')
      else scalar b rest

/-- The items from the next one on; `seen` holds those before it, last first. -/
def itemsWithin : Nat → Nat → List Json → List UInt8 → Answer Json
  | 0, _, _, input => fail .endInList input
  | fuel + 1, depth, seen, input =>
    match valueWithin fuel depth input with
    | .error e => .error e
    | .ok (item, rest) =>
      match skipBlank rest with
      | [] => fail .endInList []
      | b :: rest =>
        if b = 0x2c then
          match skipBlank rest with
          | [] => fail .endInValue []
          | c :: rest' =>
            if c = 0x5d then fail .trailingComma rest'
            else itemsWithin fuel depth (item :: seen) (c :: rest')
        else if b = 0x5d then .ok (.array (item :: seen).reverse, rest)
        else fail .expectedListEnd rest

/-- The members from the next one on; `seen` holds those before it, last first. -/
def membersWithin : Nat → Nat → List (String × Json) → List UInt8 → Answer Json
  | 0, _, _, input => fail .endInObject input
  | fuel + 1, depth, seen, input =>
    match memberName input with
    | .error e => .error e
    | .ok (name, rest) =>
      match valueWithin fuel depth rest with
      | .error e => .error e
      | .ok (item, rest) =>
        match skipBlank rest with
        | [] => fail .endInObject []
        | b :: rest =>
          if b = 0x2c then
            match skipBlank rest with
            | [] => fail .endInValue []
            | c :: rest' =>
              if c = 0x7d then fail .trailingComma rest'
              else membersWithin fuel depth ((name, item) :: seen) (c :: rest')
          else if b = 0x7d then .ok (.object ((name, item) :: seen).reverse, rest)
          else fail .expectedObjectEnd rest

end

/-- Enough steps for any value in this input. -/
def steps (input : List UInt8) : Nat :=
  2 * input.length + 2

def readValue (depth : Nat) (input : List UInt8) : Answer Json :=
  valueWithin (steps input) depth input

def onlyBlankLeft {α : Type} : Answer α → Except Failure α
  | .error e => .error e
  | .ok (a, rest) =>
    match skipBlank rest with
    | [] => .ok a
    | _ :: rest => .error ⟨.trailingBytes, rest⟩

def read (input : List UInt8) : Except Failure Json :=
  onlyBlankLeft (readValue deepest input)

inductive Bracket where
  | list
  | object
  deriving DecidableEq

inductive Due where
  | value
  | firstEntry
  | nextEntry
  deriving DecidableEq

def Bracket.closing : Bracket → UInt8
  | .list => 0x5d
  | .object => 0x7d

def Bracket.unfinished : Bracket → Fault
  | .list => .endInList
  | .object => .endInObject

def Bracket.endExpected : Bracket → Fault
  | .list => .expectedListEnd
  | .object => .expectedObjectEnd

/-- Passes over the name of an entry, if entries of this kind have one. -/
def skipName : Bracket → List UInt8 → Except Failure (List UInt8)
  | .list, input => .ok input
  | .object, input =>
    match skipBlank input with
    | [] => .error ⟨.endInObject, []⟩
    | b :: rest =>
      if b = 0x22 then
        match skipText rest with
        | .error e => .error e
        | .ok rest => colon rest
      else .error ⟨.nameNotText, rest⟩

def skipScalar (b : UInt8) (rest : List UInt8) : Except Failure (List UInt8) :=
  if b = 0x6e then (word () nullTail rest).map (·.2)
  else if b = 0x74 then (word () trueTail rest).map (·.2)
  else if b = 0x66 then (word () falseTail rest).map (·.2)
  else if b = 0x22 then skipText rest
  else if b = 0x2d then skipNumber rest
  else if isDigit b then skipNumber (b :: rest)
  else .error ⟨.expectedValue, rest⟩

def skipWithin : Nat → Due → List Bracket → List UInt8 → Except Failure (List UInt8)
  | 0, _, _, input => .error ⟨.endInValue, input⟩
  | fuel + 1, .value, opened, input =>
    match skipBlank input with
    | [] => .error ⟨.endInValue, []⟩
    | b :: rest =>
      if b = 0x5b then skipWithin fuel .firstEntry (.list :: opened) rest
      else if b = 0x7b then skipWithin fuel .firstEntry (.object :: opened) rest
      else
        match skipScalar b rest with
        | .error e => .error e
        | .ok rest => if opened.isEmpty then .ok rest else skipWithin fuel .nextEntry opened rest
  | _ + 1, _, [], input => .ok input
  | fuel + 1, .firstEntry, bracket :: opened, input =>
    match skipBlank input with
    | [] => .error ⟨bracket.unfinished, []⟩
    | b :: rest =>
      if b = bracket.closing then
        if opened.isEmpty then .ok rest else skipWithin fuel .nextEntry opened rest
      else
        match skipName bracket (b :: rest) with
        | .error e => .error e
        | .ok rest => skipWithin fuel .value (bracket :: opened) rest
  | fuel + 1, .nextEntry, bracket :: opened, input =>
    match skipBlank input with
    | [] => .error ⟨bracket.unfinished, []⟩
    | b :: rest =>
      if b = 0x2c then
        match skipName bracket rest with
        | .error e => .error e
        | .ok rest => skipWithin fuel .value (bracket :: opened) rest
      else if b = bracket.closing then
        if opened.isEmpty then .ok rest else skipWithin fuel .nextEntry opened rest
      else .error ⟨bracket.endExpected, rest⟩

/-- What is passed over may be nested without limit, and its texts are not decoded. -/
def skipValue (input : List UInt8) : Except Failure (List UInt8) :=
  skipWithin (steps input) .value [] input

end TopicGateway.Json
