import TopicGateway.Json.Reader

/-! Reading records from JSON. A record is written as an object, or as a list of its fields in their
order. Members that are no field are passed over. The first thing that is wrong in reading order is
what the failure names; a failure that concerns the record as a whole lies behind its closing
bracket, if that comes next. -/

namespace TopicGateway.Json

/-- A value that is not of the expected kind, whose first byte is known. -/
def unexpected {α : Type} (expected : String) (b : UInt8) (rest : List UInt8) : Answer α :=
  let mismatch (found : Found) (rest : List UInt8) : Answer α :=
    fail (.mismatch (.wrongKind found expected)) rest
  if b = 0x5b then mismatch .list (b :: rest)
  else if b = 0x7b then mismatch .object (b :: rest)
  else
    match scalar b rest with
    | .error e => .error e
    | .ok (.null, rest) => mismatch .absent rest
    | .ok (.bool v, rest) => mismatch (.bool v) rest
    | .ok (.number n, rest) => mismatch n.found rest
    | .ok (.string s, rest) => mismatch (.text s) rest
    | .ok (.array _, rest) => mismatch .list rest
    | .ok (.object _, rest) => mismatch .object rest

def readParsed {α : Type} (expected : String) (parse : String → Except String α)
    (input : List UInt8) : Answer α :=
  match skipBlank input with
  | [] => fail .endInValue []
  | b :: rest =>
    if b = 0x22 then
      match readText rest with
      | .error e => .error e
      | .ok (s, rest) =>
        match parse s with
        | .ok a => .ok (a, rest)
        | .error reason => fail (.mismatch (.refused reason)) rest
    else unexpected expected b rest

def readString (input : List UInt8) : Answer String :=
  readParsed "a string" .ok input

def Number.toReal : Number → Real64
  | .integer n _ => (Real64.ofDecimal? (n < 0) n.natAbs 0).getD ⟨false, .zero⟩
  | .real r => r

def readFloat (input : List UInt8) : Answer Real64 :=
  match skipBlank input with
  | [] => fail .endInValue []
  | b :: rest =>
    if b = 0x2d then (readNumber true rest).map fun (n, rest) => (n.toReal, rest)
    else if isDigit b then (readNumber false (b :: rest)).map fun (n, rest) => (n.toReal, rest)
    else unexpected "f64" b rest

/-- What is left when the closing bracket is passed over, should it come next. -/
def pastClosing (closing : UInt8) (input : List UInt8) : List UInt8 :=
  match skipBlank input with
  | [] => []
  | b :: rest => if b = closing then rest else b :: rest

/-- What is left of a list that is given up: its end or a comma is passed over. -/
def pastListEnd (input : List UInt8) : List UInt8 :=
  match skipBlank input with
  | [] => []
  | b :: rest =>
    if b = 0x5d then rest
    else if b = 0x2c then skipBlank rest
    else b :: rest

/-- A number as it is kept. A bracket in its place is entered and left again. -/
def readPlainNumber (input : List UInt8) : Answer Number :=
  let expected := "a JSON number"
  match skipBlank input with
  | [] => fail .endInValue []
  | b :: rest =>
    if b = 0x2d then readNumber true rest
    else if isDigit b then readNumber false (b :: rest)
    else if b = 0x5b then fail (.mismatch (.wrongKind .list expected)) (pastListEnd rest)
    else if b = 0x7b then fail (.mismatch (.wrongKind .object expected)) (pastClosing 0x7d rest)
    else unexpected expected b rest

def Number.read (input : List UInt8) : Except Failure Number :=
  onlyBlankLeft (readPlainNumber input)

/-- Texts of a list from the next one on; `seen` holds those before it, last first. -/
def stringsWithin : Nat → List String → List UInt8 → Answer (List String)
  | 0, _, input => fail .endInList input
  | fuel + 1, seen, input =>
    match readString input with
    | .error e => .error e
    | .ok (s, rest) =>
      match skipBlank rest with
      | [] => fail .endInList []
      | b :: rest =>
        if b = 0x2c then
          match skipBlank rest with
          | [] => fail .endInValue []
          | c :: rest' =>
            if c = 0x5d then fail .trailingComma rest' else stringsWithin fuel (s :: seen) (c :: rest')
        else if b = 0x5d then .ok ((s :: seen).reverse, rest)
        else fail .expectedListEnd rest

def readStrings (depth : Nat) (input : List UInt8) : Answer (List String) :=
  match skipBlank input with
  | [] => fail .endInValue []
  | b :: rest =>
    if b = 0x5b then
      match depth with
      | 0 => fail .tooDeep rest
      | _ + 1 =>
        match skipBlank rest with
        | [] => fail .endInList []
        | c :: rest' =>
          if c = 0x5d then .ok ([], rest') else stringsWithin (rest.length + 1) [] (c :: rest')
    else unexpected "a sequence" b rest

/-- A field of a record that is being built in `σ`. -/
structure Field (σ : Type) where
  name : String
  required : Bool
  /-- Reads the field's value, with so many levels still allowed, and puts it into the record. -/
  read : Nat → σ → List UInt8 → Answer σ

/-- A name, where a comma or the opening brace has just been passed over. -/
def fieldName : List UInt8 → Answer String
  | [] => fail .endInValue []
  | b :: rest => if b = 0x22 then readText rest else fail .nameNotText rest

section Object

variable {σ : Type} (fields : List (Field σ))

/-- The members from the next one on; `given` names the fields that have a value. -/
def fieldsWithin (depth : Nat) : Nat → List String → σ → List UInt8 → Answer (List String × σ)
  | 0, _, _, input => fail .endInObject input
  | fuel + 1, given, record, input =>
    match fieldName input with
    | .error e => .error e
    | .ok (name, rest) =>
      let value : Except Failure (List String × σ × List UInt8) :=
        match fields.find? (·.name = name) with
        | some field =>
          if given.contains name then
            .error ⟨.mismatch (.duplicate name), pastClosing 0x7d rest⟩
          else
            match colon rest with
            | .error e => .error e
            | .ok rest => (field.read depth record rest).map fun (r, rest) => (name :: given, r, rest)
        | none =>
          match colon rest with
          | .error e => .error e
          | .ok rest => (skipValue rest).map fun rest => (given, record, rest)
      match value with
      | .error e => .error e
      | .ok (given, record, rest) =>
        match skipBlank rest with
        | [] => fail .endInObject []
        | b :: rest =>
          if b = 0x2c then
            match skipBlank rest with
            | [] => fail .endInValue []
            | c :: rest' =>
              if c = 0x7d then fail .trailingComma rest'
              else fieldsWithin depth fuel given record (c :: rest')
          else if b = 0x7d then .ok ((given, record), rest)
          else fail .expectedObjectEnd rest

def complete (given : List String) (record : σ) (rest : List UInt8) : Answer σ :=
  match fields.find? fun f => f.required && !given.contains f.name with
  | some f => fail (.mismatch (.missing f.name)) rest
  | none => .ok (record, rest)

def fromObject (depth : Nat) (record : σ) (input : List UInt8) : Answer σ :=
  match skipBlank input with
  | [] => fail .endInObject []
  | b :: rest =>
    if b = 0x7d then complete fields [] record rest
    else
      match fieldsWithin fields depth (input.length + 1) [] record (b :: rest) with
      | .error e => .error e
      | .ok ((given, record), rest) => complete fields given record rest

end Object

/-- What may stand behind the last field of a list. -/
def listEnd {σ : Type} (record : σ) (input : List UInt8) : Answer σ :=
  match skipBlank input with
  | [] => fail .endInList []
  | b :: rest =>
    if b = 0x5d then .ok (record, rest)
    else if b = 0x2c then
      match skipBlank rest with
      | [] => fail .trailingBytes []
      | c :: rest => if c = 0x5d then fail .trailingComma rest else fail .trailingBytes rest
    else fail .trailingBytes rest

/-- The fields from the one at `index` on, where an earlier item has been read unless that is the
first. -/
def fromItems {σ : Type} (expected : String) (depth : Nat) :
    Nat → List (Field σ) → σ → List UInt8 → Answer σ
  | _, [], record, input => listEnd record input
  | index, field :: fields, record, input =>
    let item (input : List UInt8) : Answer σ :=
      match field.read depth record input with
      | .error e => .error e
      | .ok (record, rest) => fromItems expected depth (index + 1) fields record rest
    match skipBlank input with
    | [] => fail .endInList []
    | b :: rest =>
      if b = 0x5d then
        if field.required then fail (.mismatch (.tooShort index expected)) rest
        else .ok (record, rest)
      else if index = 0 then item (b :: rest)
      else if b = 0x2c then
        match skipBlank rest with
        | [] => fail .endInValue []
        | c :: rest' => if c = 0x5d then fail .trailingComma rest' else item (c :: rest')
      else fail .expectedListEnd rest

structure Record (σ : Type) where
  name : String
  fields : List (Field σ)

def Record.expected {σ : Type} (r : Record σ) : String :=
  "struct " ++ r.name

/-- How many items a record has when it is written as a list. -/
def Record.expectedItems {σ : Type} (r : Record σ) : String :=
  let count := r.fields.length
  r.expected ++ " with " ++ toString count ++ (if count = 1 then " element" else " elements")

/-- A record, starting from what it holds when nothing is given. -/
def Record.read {σ : Type} (r : Record σ) (depth : Nat) (start : σ) (input : List UInt8) :
    Answer σ :=
  match skipBlank input with
  | [] => fail .endInValue []
  | b :: rest =>
    if b = 0x7b then
      match depth with
      | 0 => fail .tooDeep rest
      | depth + 1 => fromObject r.fields depth start rest
    else if b = 0x5b then
      match depth with
      | 0 => fail .tooDeep rest
      | depth + 1 => fromItems r.expectedItems depth 0 r.fields start rest
    else unexpected r.expected b rest

def Record.readWhole {σ : Type} (r : Record σ) (start : σ) (input : List UInt8) :
    Except Failure σ :=
  onlyBlankLeft (r.read deepest start input)

end TopicGateway.Json
