import TopicGateway.Yaml.Gap
import TopicGateway.Yaml.Token

/-! Plain scalars. Text without quotes. It ends before a colon that a blank follows, before a
comment, before a document indicator, where the indentation goes back, and within a flow collection
before its punctuation. -/

namespace TopicGateway.Yaml.PlainScalar

def isFlowPunctuation (c : Char) : Bool :=
  c = ',' || c = '[' || c = ']' || c = '\x7b' || c = '\x7d'

def endsBefore (flow : Bool) (a : Char) (rest : List Char) : Bool :=
  (a = ':' && endsWord rest) || (flow && isFlowPunctuation a)

def isStrayColon (flow : Bool) (a : Char) (rest : List Char) : Bool :=
  flow && a = ':' && startsWith (fun b => isFlowPunctuation b || b = '?') rest

/-- A piece without blanks: its text with the last character first, and how it ends: before a
character that ends it, or at a stray colon. -/
structure Piece where
  text : List Char
  stray : Bool
  rest : List Char

def piece (flow : Bool) (seen : List Char) : List Char → Piece
  | [] => ⟨seen, false, []⟩
  | a :: rest =>
    if isBlankOrBreak a then ⟨seen, false, a :: rest⟩
    else if isStrayColon flow a rest then ⟨seen, true, a :: rest⟩
    else if endsBefore flow a rest then ⟨seen, false, a :: rest⟩
    else piece flow (a :: seen) rest

/-- Where a tab stands in a gap that has come to a new line, left of the indentation. -/
def badTabWithin (indent : Int) : Nat → Bool → Cursor → Option Mark
  | 0, _, _ => none
  | fuel + 1, broken, c =>
    match c.rest with
    | [] => none
    | a :: _ =>
      if isBlank a then
        if broken && a = '\t' && (c.column : Int) < indent then some c.mark
        else badTabWithin indent fuel broken (c.skip 1)
      else
        match c.takeBreak? with
        | some (_, c) => badTabWithin indent fuel true c
        | none => none

/-- What has been read of a scalar: its text with the last character first, the place behind it, and
the gap that follows. -/
structure Partial where
  text : List Char
  stop : Mark
  gap : Gap

/-- Reads on; `indent` is the least column of a further line outside flow collections. -/
def readWithin (flow : Bool) (indent : Int) (start : Mark) :
    Nat → Partial → Cursor → Scan Partial
  | 0, seen, c => .ok (seen, c)
  | fuel + 1, seen, c =>
    if c.atDocumentIndicator || startsWith (· = '#') c.rest then .ok (seen, c)
    else
      let p := piece flow [] c.rest
      let behind : Cursor := ⟨c.mark.forward p.text.length, p.rest⟩
      if p.stray then fault .plainScalar start .unexpectedColon behind.mark
      else
        let seen : Partial :=
          if p.text.isEmpty then seen
          else ⟨p.text ++ (seen.gap.folded ++ seen.text), behind.mark, .none⟩
        if startsWith isBlankOrBreak p.rest then
          match badTabWithin indent fuel seen.gap.broken behind with
          | some mark => fault .plainScalar start .tabInIndentation mark
          | none =>
            let (gap, c) := seen.gap.readWithin fuel behind
            let seen := { seen with gap := gap }
            if !flow && (c.column : Int) < indent then .ok (seen, c)
            else readWithin flow indent start fuel seen c
        else .ok (seen, behind)

/-- The scalar at the cursor. The flag tells whether line breaks follow it. -/
def read (flow : Bool) (indent : Int) (c : Cursor) : Scan (Token × Bool) :=
  match readWithin flow indent c.mark (c.rest.length + 1) ⟨[], c.mark, .none⟩ c with
  | .error e => .error e
  | .ok (seen, stop) =>
    .ok ((⟨.scalar (String.ofList seen.text.reverse) .plain, c.mark, seen.stop⟩, seen.gap.broken),
      stop)

end TopicGateway.Yaml.PlainScalar
