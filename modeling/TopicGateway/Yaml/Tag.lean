import TopicGateway.Text.Hex
import TopicGateway.Text.Utf8
import TopicGateway.Yaml.Token

/-! Tags, anchors and directives. A tag is written out between angle brackets, or as a handle and a
suffix; the handle stands for the beginning of the tag. Percent escapes in a tag give the bytes of a
character. A directive sets the version, or what a handle stands for. -/

namespace TopicGateway.Yaml

namespace Tag

/-- A character of a tag. The last three are for tags between brackets and for directives. -/
def isUriChar (wide : Bool) (c : Char) : Bool :=
  isNameChar c || [';', '/', '?', ':', '@', '&', '=', '+', '$', '.', '%', '!', '~', '*', '\'', '(',
    ')'].contains c || (wide && [',', '[', ']'].contains c)

def escapedByte? : List Char → Option UInt8
  | '%' :: a :: b :: _ =>
    match Text.hexDigit? a, Text.hexDigit? b with
    | some x, some y => some (UInt8.ofNat (16 * x.val + y.val))
    | _, _ => none
  | _ => none

def width? (b : UInt8) : Option Nat :=
  let n := b.toNat
  if n < 0x80 then some 1
  else if n < 0xc0 then none
  else if n < 0xe0 then some 2
  else if n < 0xf0 then some 3
  else if n < 0xf8 then some 4
  else none

def trailing (activity : Activity) (start : Mark) : Nat → List UInt8 → Cursor → Scan (List UInt8)
  | 0, seen, c => .ok (seen.reverse, c)
  | count + 1, seen, c =>
    match escapedByte? c.rest with
    | none => fault activity start .noUriEscape c.mark
    | some b =>
      if 0x80 ≤ b.toNat ∧ b.toNat < 0xc0 then trailing activity start count (b :: seen) (c.skip 3)
      else fault activity start .badTrailingOctet c.mark

def escaped (activity : Activity) (start : Mark) (c : Cursor) : Scan (List UInt8) :=
  match escapedByte? c.rest with
  | none => fault activity start .noUriEscape c.mark
  | some b =>
    match width? b with
    | none => fault activity start .badLeadingOctet c.mark
    | some width => trailing activity start (width - 1) [b] (c.skip 3)

/-- The bytes of a tag's text, the last one first. -/
def uriWithin (wide : Bool) (activity : Activity) (start : Mark) :
    Nat → List UInt8 → Cursor → Scan (List UInt8)
  | 0, seen, c => .ok (seen, c)
  | fuel + 1, seen, c =>
    match c.rest with
    | [] => .ok (seen, c)
    | a :: _ =>
      if isUriChar wide a then
        if a = '%' then
          match escaped activity start c with
          | .error e => .error e
          | .ok (bytes, c) => uriWithin wide activity start fuel (bytes.reverse ++ seen) c
        else uriWithin wide activity start fuel (UInt8.ofNat a.toNat :: seen) (c.skip 1)
      else .ok (seen, c)

/-- The text of a tag after `lead`; lead and text must not both be empty. -/
def uri (wide : Bool) (activity : Activity) (start : Mark) (lead : Option (List Char)) (c : Cursor) :
    Scan String :=
  match uriWithin wide activity start (c.rest.length + 1) [] c with
  | .error e => .error e
  | .ok (bytes, stop) =>
    if lead.isNone && stop.mark = c.mark then fault activity start .noUri stop.mark
    else
      .ok (String.ofList (lead.getD [] ++ Text.Utf8.decodeLossy bytes.reverse), stop)

/-- An exclamation mark, name characters, and another exclamation mark if there is one. -/
def handle (activity : Activity) (start : Mark) (c : Cursor) : Scan (List Char) :=
  if startsWith (· = '!') c.rest then
    let (name, c) := (c.skip 1).span isNameChar
    if startsWith (· = '!') c.rest then .ok ('!' :: (name ++ ['!']), c.skip 1)
    else .ok ('!' :: name, c)
  else fault activity start .noExclamation c.mark

def isNamed (handle : List Char) : Bool :=
  1 < handle.length && handle.getLast? = some '!'

/-- Handle and suffix of the tag at the cursor. A tag between brackets has the empty handle, and so
has a single exclamation mark, which is the suffix then. -/
def parts (start : Mark) (c : Cursor) : Scan (String × String) :=
  if (c.rest.drop 1).head? = some '<' then
    match uri true .tagUri start none (c.skip 2) with
    | .error e => .error e
    | .ok (suffix, c) =>
      if startsWith (· = '>') c.rest then .ok (("", suffix), c.skip 1)
      else fault .tag start .noTagClose c.mark
  else
    match handle .tag start c with
    | .error e => .error e
    | .ok (h, c) =>
      if isNamed h then
        (uri false .tagUri start none c).map fun (suffix, c) => ((String.ofList h, suffix), c)
      else
        match uri false .tagUri start (some (h.drop 1)) c with
        | .error e => .error e
        | .ok (suffix, c) => .ok (if suffix.isEmpty then ("", "!") else ("!", suffix), c)

def read (flow : Bool) (c : Cursor) : Scan Token :=
  match parts c.mark c with
  | .error e => .error e
  | .ok ((handle, suffix), stop) =>
    if endsWord stop.rest || (flow && startsWith (· = ',') stop.rest) then
      .ok (⟨.tag handle suffix, c.mark, stop.mark⟩, stop)
    else fault .tag c.mark .noWhitespaceOrBreak stop.mark

end Tag

/-- A name after an ampersand, or after an asterisk for a reference. -/
def readAnchor (isReference : Bool) (c : Cursor) : Scan Token :=
  let (name, stop) := (c.skip 1).span isNameChar
  let ended := endsWord stop.rest ||
    startsWith (['?', ':', ',', ']', '\x7d', '%', '@', '\x60'].contains ·) stop.rest
  if name.isEmpty || !ended then
    fault (if isReference then .reference else .anchor) c.mark .noName stop.mark
  else
    let name := String.ofList name
    .ok (⟨if isReference then .reference name else .anchor name, c.mark, stop.mark⟩, stop)

namespace Directive

def longestNumber : Nat := 9

def number (start : Mark) (c : Cursor) : Scan Nat :=
  let (ds, stop) := c.span Char.isDigit
  if longestNumber < ds.length then
    fault .versionDirective start .longVersion (c.skip longestNumber).mark
  else if ds.isEmpty then fault .versionDirective start .noVersion c.mark
  else .ok (ds.foldl (fun n d => 10 * n + (d.toNat - 0x30)) 0, stop)

def version (start : Mark) (c : Cursor) : Scan Lexeme :=
  match number start (c.skipWhile isBlank) with
  | .error e => .error e
  | .ok (major, c) =>
    if startsWith (· = '.') c.rest then
      (number start (c.skip 1)).map fun (minor, c) => (.versionDirective major minor, c)
    else fault .versionDirective start .noDigitOrPoint c.mark

def tag (start : Mark) (c : Cursor) : Scan Lexeme :=
  match Tag.handle .handle start (c.skipWhile isBlank) with
  | .error e => .error e
  | .ok (h, c) =>
    if h ≠ ['!'] ∧ !Tag.isNamed h then fault .handleEnd start .noExclamation c.mark
    else if !startsWith isBlank c.rest then fault .tagDirective start .noWhitespace c.mark
    else
      match Tag.uri true .tagDirectiveUri start none (c.skipWhile isBlank) with
      | .error e => .error e
      | .ok (uri, c) =>
        if endsWord c.rest then .ok (.tagDirective (String.ofList h) uri, c)
        else fault .tagDirective start .noWhitespaceOrBreak c.mark

def body (start : Mark) (c : Cursor) : Scan Lexeme :=
  let (name, c) := c.span isNameChar
  if name.isEmpty then fault .directive start .noDirectiveName c.mark
  else if !endsWord c.rest then fault .directive start .notAlphabetic c.mark
  else if name = ['Y', 'A', 'M', 'L'] then version start c
  else if name = ['T', 'A', 'G'] then tag start c
  else fault .directive start .unknownDirective c.mark

/-- The directive whose percent sign is at the cursor, with the rest of its line. -/
def read (c : Cursor) : Scan Token :=
  match body c.mark (c.skip 1) with
  | .error e => .error e
  | .ok (lexeme, stop) =>
    let after := stop.skipComment
    if endsLine after.rest then .ok (⟨lexeme, c.mark, stop.mark⟩, after.skipBreak)
    else fault .directive c.mark .noCommentOrBreak after.mark

end Directive

end TopicGateway.Yaml
