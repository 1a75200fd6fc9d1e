/-! Places in a text. A mark counts characters, lines and columns from 0; messages count lines and
columns from 1. A cursor is a mark with the characters from there on. Besides carriage return, line
feed and the pair of them, three characters beyond ASCII end a line. -/

namespace TopicGateway.Yaml

structure Mark where
  index : Nat
  line : Nat
  column : Nat
  deriving DecidableEq

namespace Mark

def origin : Mark := ⟨0, 0, 0⟩

def forward (m : Mark) (count : Nat) : Mark :=
  ⟨m.index + count, m.line, m.column + count⟩

def nextLine (m : Mark) (count : Nat) : Mark :=
  ⟨m.index + count, m.line + 1, 0⟩

def samePlace (m n : Mark) : Bool :=
  m.line == n.line && m.column == n.column

/-- The place as messages give it; the very beginning is not told. -/
def place (m : Mark) : String :=
  if m.samePlace origin then ""
  else " at line " ++ toString (m.line + 1) ++ " column " ++ toString (m.column + 1)

end Mark

def isBreak (c : Char) : Bool :=
  c = '\r' || c = '\n' || c = '\u0085' || c = '\u2028' || c = '\u2029'

def isBlank (c : Char) : Bool :=
  c = ' ' || c = '\t'

def isBlankOrBreak (c : Char) : Bool :=
  isBlank c || isBreak c

def isNameChar (c : Char) : Bool :=
  c.isAlphanum || c = '_' || c = '-'

def endsWord : List Char → Bool
  | [] => true
  | c :: _ => isBlankOrBreak c

def endsLine : List Char → Bool
  | [] => true
  | c :: _ => isBreak c

def startsWith (p : Char → Bool) : List Char → Bool
  | [] => false
  | c :: _ => p c

structure Cursor where
  mark : Mark
  rest : List Char
  deriving DecidableEq

namespace Cursor

def column (c : Cursor) : Nat :=
  c.mark.column

def skip (c : Cursor) (count : Nat) : Cursor :=
  ⟨c.mark.forward count, c.rest.drop count⟩

/-- The characters at the front that fulfil `p`, none of them a line break, and what follows. -/
def span (c : Cursor) (p : Char → Bool) : List Char × Cursor :=
  let taken := c.rest.takeWhile p
  (taken, ⟨c.mark.forward taken.length, c.rest.dropWhile p⟩)

def skipWhile (c : Cursor) (p : Char → Bool) : Cursor :=
  (c.span p).2

/-- The line break at the front as it is kept in a scalar, and what follows. -/
def takeBreak? (c : Cursor) : Option (Char × Cursor) :=
  match c.rest with
  | [] => none
  | a :: rest =>
    if a = '\r' ∧ rest.head? = some '\n' then some ('\n', ⟨c.mark.nextLine 2, rest.drop 1⟩)
    else if a = '\u2028' ∨ a = '\u2029' then some (a, ⟨c.mark.nextLine 1, rest⟩)
    else if isBreak a then some ('\n', ⟨c.mark.nextLine 1, rest⟩)
    else none

def skipBreak (c : Cursor) : Cursor :=
  match c.takeBreak? with
  | some (_, c) => c
  | none => c

/-- Past the rest of the line, the line break excluded, where only blanks and a comment may stand.
Without that the cursor is where something else stands. -/
def skipComment (c : Cursor) : Cursor :=
  let c := c.skipWhile isBlank
  if startsWith (· = '#') c.rest then c.skipWhile (!isBreak ·) else c

/-- Three equal characters at the beginning of a line that stand for themselves. -/
def atIndicator (c : Cursor) (sign : Char) : Bool :=
  c.column == 0 && c.rest.take 3 == [sign, sign, sign] && endsWord (c.rest.drop 3)

/-- A document begins or ends here. -/
def atDocumentIndicator (c : Cursor) : Bool :=
  c.atIndicator '-' || c.atIndicator '.'

end Cursor

end TopicGateway.Yaml
