import TopicGateway.Text.Hex
import TopicGateway.Yaml.Gap
import TopicGateway.Yaml.Token

/-! Quoted scalars. Between single quotes a doubled quote stands for one. Between double quotes a
backslash begins an escape, also of a line break. Text is gathered with the last character first. -/

namespace TopicGateway.Yaml

/-- An escape after the backslash: a character, or the number of hexadecimal digits that follow. -/
inductive Escape where
  | character (c : Char)
  | digits (count : Nat)

def escape? (c : Char) : Option Escape :=
  match c with
  | '0' => some (.character '\x00')
  | 'a' => some (.character '\x07')
  | 'b' => some (.character '\x08')
  | 't' => some (.character '\t')
  | '\t' => some (.character '\t')
  | 'n' => some (.character '\n')
  | 'v' => some (.character '\x0b')
  | 'f' => some (.character '\x0c')
  | 'r' => some (.character '\r')
  | 'e' => some (.character '\x1b')
  | ' ' => some (.character ' ')
  | '"' => some (.character '"')
  | '/' => some (.character '/')
  | '\\' => some (.character '\\')
  | 'N' => some (.character '\u0085')
  | '_' => some (.character '\u00a0')
  | 'L' => some (.character '\u2028')
  | 'P' => some (.character '\u2029')
  | 'x' => some (.digits 2)
  | 'u' => some (.digits 4)
  | 'U' => some (.digits 8)
  | _ => none

/-- The number with exactly so many hexadecimal digits at the front. -/
def hexNumber? : Nat → Nat → List Char → Option Nat
  | 0, n, _ => some n
  | _ + 1, _, [] => none
  | count + 1, n, c :: cs =>
    match Text.hexDigit? c with
    | some d => hexNumber? count (16 * n + d.val) cs
    | none => none

/-- A character by its number; there is none for halves of surrogate pairs and beyond Unicode. -/
def character? (n : Nat) : Option Char :=
  if h : n.isValidChar then some (Char.ofNatAux n h) else none

namespace QuotedScalar

def readEscape (start : Mark) (c : Cursor) : Scan Char :=
  match (c.rest.drop 1).head?.bind escape? with
  | none => fault .escape start .unknownEscape c.mark
  | some (.character a) => .ok (a, c.skip 2)
  | some (.digits count) =>
    let c := c.skip 2
    match hexNumber? count 0 c.rest with
    | none => fault .escape start .notHexadecimal c.mark
    | some n =>
      match character? n with
      | none => fault .escape start .invalidCharacter c.mark
      | some a => .ok (a, c.skip count)

/-- Text up to a closing quote, a blank or a line break. The flag tells of an end at an escaped line
break, which is passed over. -/
def pieceWithin (single : Bool) (start : Mark) :
    Nat → List Char → Cursor → Scan (List Char × Bool)
  | 0, seen, c => .ok ((seen, false), c)
  | fuel + 1, seen, c =>
    match c.rest with
    | [] => .ok ((seen, false), c)
    | a :: rest =>
      if isBlankOrBreak a then .ok ((seen, false), c)
      else if single then
        if a = '\'' then
          if rest.head? = some '\'' then pieceWithin single start fuel ('\'' :: seen) (c.skip 2)
          else .ok ((seen, false), c)
        else pieceWithin single start fuel (a :: seen) (c.skip 1)
      else if a = '"' then .ok ((seen, false), c)
      else if a = '\\' then
        if startsWith isBreak rest then .ok ((seen, true), (c.skip 1).skipBreak)
        else
          match readEscape start c with
          | .error e => .error e
          | .ok (b, c) => pieceWithin single start fuel (b :: seen) c
      else pieceWithin single start fuel (a :: seen) (c.skip 1)

def readWithin (single : Bool) (start : Mark) : Nat → List Char → Cursor → Scan (List Char)
  | 0, _, c => fault .quotedScalar start .endInScalar c.mark
  | fuel + 1, seen, c =>
    if c.atDocumentIndicator then fault .quotedScalar start .indicatorInScalar c.mark
    else if c.rest.isEmpty then fault .quotedScalar start .endInScalar c.mark
    else
      match pieceWithin single start fuel seen c with
      | .error e => .error e
      | .ok ((seen, escaped), c) =>
        if startsWith (· = if single then '\'' else '"') c.rest then .ok (seen, c.skip 1)
        else
          let (gap, c) := (if escaped then Gap.escaped else Gap.none).readWithin fuel c
          readWithin single start fuel (gap.folded ++ seen) c

def read (single : Bool) (c : Cursor) : Scan Token :=
  match readWithin single c.mark (c.rest.length + 1) [] (c.skip 1) with
  | .error e => .error e
  | .ok (seen, stop) =>
    let style : ScalarStyle := if single then .singleQuoted else .doubleQuoted
    .ok (⟨.scalar (String.ofList seen.reverse) style, c.mark, stop.mark⟩, stop)

end QuotedScalar

end TopicGateway.Yaml
