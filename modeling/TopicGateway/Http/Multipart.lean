import TopicGateway.Http.MediaType
import TopicGateway.Text.Charset
import TopicGateway.Text.Quoted

/-! Multipart bodies. A body is cut into parts by its boundary. The first boundary may stand
anywhere; a part ends where a line break and the boundary follow its content. A part has headers, of
which its name, its file name and its character set matter. -/

namespace TopicGateway.Http

structure Part where
  name : Option String
  fileName : Option String
  charset : Text.Charset
  content : List UInt8
  deriving DecidableEq

namespace Multipart

inductive Fault where
  | noBoundary
  | unreadable
  | incomplete
  | badHeaders
  | incompletePart (name : Option String)
  deriving DecidableEq

def Fault.message : Fault → String
  | .noBoundary => "Invalid `boundary` for `multipart/form-data` request"
  | .unreadable => "failed to read stream"
  | .incomplete => "incomplete multipart stream"
  | .badHeaders => "failed to read headers"
  | .incompletePart (some name) =>
    "field " ++ Text.quoted name ++ " received with incomplete data"
  | .incompletePart none => "field <unknown> received with incomplete data"

def boundary? (contentType : Option (List Char)) : Option String := do
  let media ← MediaType.ofChars? (← contentType)
  if media.type = "multipart" ∧ media.subtype = "form-data" then media.parameter "boundary"
  else none

/-- Splits before the first place where the pattern stands; `seen` holds the bytes in front, last
first. -/
def splitAtPattern? (pattern : List UInt8) (seen : List UInt8) :
    List UInt8 → Option (List UInt8 × List UInt8)
  | [] => if pattern.isEmpty then some (seen.reverse, []) else none
  | b :: rest =>
    if pattern.isPrefixOf (b :: rest) then some (seen.reverse, b :: rest)
    else splitAtPattern? pattern (b :: seen) rest

/-- The bytes before the first place of the pattern, and those after the pattern. -/
def cutAt? (pattern input : List UInt8) : Option (List UInt8 × List UInt8) :=
  (splitAtPattern? pattern [] input).map fun (before, rest) => (before, rest.drop pattern.length)

def lineBreak : List UInt8 := [0x0d, 0x0a]

def dashes : List UInt8 := [0x2d, 0x2d]

def isHeaderByte (b : UInt8) : Bool :=
  b == 0x09 || (0x20 ≤ b && b != 0x7f)

def isTokenByte (b : UInt8) : Bool :=
  b < 0x80 && isToken (Char.ofNat b.toNat)

def isBlankByte (b : UInt8) : Bool :=
  b == 0x20 || b == 0x09

def lineEnd? : List UInt8 → Option (List UInt8)
  | 0x0d :: 0x0a :: rest => some rest
  | 0x0a :: rest => some rest
  | _ => none

def headerLimit : Nat := 32

/-- Header lines up to the first empty line; names in lower case, blanks around values dropped. -/
def headersWithin? : Nat → List UInt8 → Option (List (String × List UInt8))
  | left, input =>
    match lineEnd? input with
    | some _ => some []
    | none =>
      match left with
      | 0 => none
      | left + 1 =>
        let name := input.takeWhile isTokenByte
        if name.isEmpty then none
        else
          match input.drop name.length with
          | 0x3a :: rest =>
            let value := rest.takeWhile isHeaderByte
            match lineEnd? (rest.drop value.length) with
            | none => none
            | some rest =>
              let value := value.dropWhile isBlankByte
              let value := (value.reverse.dropWhile isBlankByte).reverse
              let name := MediaType.lower (name.map fun b => Char.ofNat b.toNat)
              (headersWithin? left rest).map ((name, value) :: ·)
          | _ => none

/-- Of several headers with one name the last counts. -/
def lastHeader? (headers : List (String × List UInt8)) (name : String) : Option (List UInt8) :=
  headers.reverse.lookup name

def isSpaceByte (b : UInt8) : Bool :=
  b == 0x20 || b == 0x09 || b == 0x0a || b == 0x0c || b == 0x0d

/-- A value between quotes, where a backslash in front of a quote keeps it from ending the value. -/
def quotedValue? (seen : List UInt8) : List UInt8 → Option (List UInt8)
  | [] => none
  | 0x5c :: 0x22 :: rest => quotedValue? (0x22 :: seen) rest
  | 0x22 :: _ => some seen.reverse
  | b :: rest => quotedValue? (b :: seen) rest

def attributeValue? (input : List UInt8) : Option (List UInt8) :=
  match input.dropWhile isSpaceByte with
  | 0x3d :: rest =>
    match rest.dropWhile isSpaceByte with
    | 0x22 :: rest => quotedValue? [] rest
    | rest => some (rest.takeWhile fun b => b != 0x3b && b != 0x20)
  | _ => none

/-- The value of the first attribute of this name; `standsAlone` tells that the name may begin
here. -/
def attributeFrom? (name : List UInt8) : Nat → Bool → List UInt8 → Option (List UInt8)
  | 0, _, _ => none
  | fuel + 1, standsAlone, input =>
    if name.isPrefixOf input then
      let rest := input.drop name.length
      if standsAlone then attributeValue? rest else attributeFrom? name fuel true rest
    else
      match input with
      | [] => none
      | b :: rest => attributeFrom? name fuel (isSpaceByte b || b == 0x3b) rest

def attribute? (name : String) (value : List UInt8) : Option String := do
  let found ← attributeFrom? (Text.Utf8.encode name) (value.length + 1) true value
  Text.Utf8.decode? found

/-- The character set that the content type of a part names, UTF-8 unless it names one. -/
def charsetOf (headers : List (String × List UInt8)) : Text.Charset :=
  let named : Option Text.Charset := do
    let value ← lastHeader? headers "content-type"
    if value.all isVisible then
      let media ← MediaType.ofChars? (value.map fun b => Char.ofNat b.toNat)
      Text.Charset.ofLabel? (← media.parameter "charset")
    else none
  named.getD .utf8

/-- The parts from a boundary on that has just been passed over; there are fewer than `fuel`. -/
def partsWithin (boundary : List UInt8) : Nat → List Part → List UInt8 → Except Fault (List Part)
  | 0, _, _ => .error .incomplete
  | fuel + 1, seen, input =>
    match input with
    | [] | [_] => .error .incomplete
    | 0x2d :: 0x2d :: _ => .ok seen.reverse
    | input =>
      let rest := input.dropWhile isBlankByte
      if lineBreak.isPrefixOf rest then
        match cutAt? (lineBreak ++ lineBreak) (rest.drop lineBreak.length) with
        | none => .error .incomplete
        | some (headerBytes, rest) =>
          match headersWithin? headerLimit (headerBytes ++ lineBreak ++ lineBreak) with
          | none => .error .badHeaders
          | some headers =>
            let disposition := (lastHeader? headers "content-disposition").getD []
            let name := attribute? "name" disposition
            match cutAt? (lineBreak ++ dashes ++ boundary) rest with
            | none => .error (.incompletePart name)
            | some (content, rest) =>
              let part : Part :=
                ⟨name, attribute? "filename" disposition, charsetOf headers, content⟩
              partsWithin boundary fuel (part :: seen) rest
      else .error .incomplete

def parts (boundary : String) (body : List UInt8) : Except Fault (List Part) :=
  let boundary := Text.Utf8.encode boundary
  match cutAt? (dashes ++ boundary) body with
  | none => .error .incomplete
  | some (_, rest) => partsWithin boundary (body.length + 1) [] rest

/-- The parts of a request whose body may have up to `limit` bytes. -/
def read (limit : Nat) (r : Request) : Except Fault (List Part) :=
  match boundary? r.contentType? with
  | none => .error .noBoundary
  | some boundary =>
    if limit < r.body.size then .error .unreadable
    else parts boundary r.body.data.toList

end Multipart

end TopicGateway.Http
