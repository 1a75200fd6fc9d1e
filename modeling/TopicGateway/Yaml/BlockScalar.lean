import TopicGateway.Yaml.Token

/-! Block scalars. Lines below a header, indented more than what is around them. A literal scalar
keeps its line breaks; in a folded one a single break between two lines that begin with no blank
becomes a space. The header can give the indentation, and whether the breaks at the end are dropped,
kept, or cut down to one. -/

namespace TopicGateway.Yaml.BlockScalar

inductive Chomping where
  | strip
  | clip
  | keep
  deriving DecidableEq

def chomping? : List Char → Option Chomping
  | '+' :: _ => some .keep
  | '-' :: _ => some .strip
  | _ => none

/-- What a header says: the chomping, and the indentation if it is given. -/
structure Header where
  chomping : Chomping
  increment : Option Nat

def increment? (start : Mark) (c : Cursor) : Scan (Option Nat) :=
  match c.rest with
  | [] => .ok (none, c)
  | d :: _ =>
    if d = '0' then fault .blockScalar start .zeroIndentation c.mark
    else if d.isDigit then .ok (some (d.toNat - 0x30), c.skip 1)
    else .ok (none, c)

def header (start : Mark) (c : Cursor) : Scan Header :=
  match chomping? c.rest with
  | some chomping =>
    (increment? start (c.skip 1)).map fun (increment, c) => (⟨chomping, increment⟩, c)
  | none =>
    match increment? start c with
    | .error e => .error e
    | .ok (none, c) => .ok (⟨.clip, none⟩, c)
    | .ok (some n, c) =>
      match chomping? c.rest with
      | some chomping => .ok (⟨chomping, some n⟩, c.skip 1)
      | none => .ok (⟨.clip, some n⟩, c)

/-- Empty lines: their line breaks with the last one first, the widest indentation, the mark behind
the last break. -/
structure Breaks where
  breaks : List Char
  widest : Nat
  stop : Mark

/-- The cursor is left of the indentation, or that is not known yet. -/
def isLeft (indent : Option Nat) (c : Cursor) : Bool :=
  match indent with
  | none => true
  | some n => c.column < n

def skipIndent (indent : Option Nat) (c : Cursor) : Cursor :=
  let spaces := c.rest.takeWhile (· = ' ')
  match indent with
  | none => c.skip spaces.length
  | some n => c.skip (min spaces.length (n - c.column))

def breaksWithin (indent : Option Nat) (start : Mark) : Nat → Breaks → Cursor → Scan Breaks
  | 0, seen, c => .ok (seen, c)
  | fuel + 1, seen, c =>
    let c := skipIndent indent c
    let seen := { seen with widest := max seen.widest c.column }
    if isLeft indent c && startsWith (· = '\t') c.rest then
      fault .blockScalar start .tabForSpace c.mark
    else
      match c.takeBreak? with
      | some (b, c) => breaksWithin indent start fuel ⟨b :: seen.breaks, seen.widest, c.mark⟩ c
      | none => .ok (seen, c)

def readBreaks (indent : Option Nat) (start : Mark) (fuel : Nat) (c : Cursor) : Scan Breaks :=
  breaksWithin indent start fuel ⟨[], 0, c.mark⟩ c

/-- What has been read of the content, with the last character first: the text, the break at the end
of the last line, the breaks of the empty lines after it; and whether the last line began with a
blank. -/
structure Content where
  text : List Char
  lineBreak : Option Char
  breaks : List Char
  blankFirst : Bool
  stop : Mark

/-- The text with the line breaks that a further line comes after. -/
def Content.joined (literal : Bool) (s : Content) (blankNext : Bool) : List Char :=
  if !literal && s.lineBreak = some '\n' && !s.blankFirst && !blankNext then
    if s.breaks.isEmpty then ' ' :: s.text else s.breaks ++ s.text
  else s.breaks ++ s.lineBreak.toList ++ s.text

def linesWithin (literal : Bool) (indent : Nat) (start : Mark) : Nat → Content → Cursor → Scan Content
  | 0, seen, c => .ok (seen, c)
  | fuel + 1, seen, c =>
    if c.column = indent && !c.rest.isEmpty then
      let blankNext := startsWith isBlank c.rest
      let (line, c) := c.span (!isBreak ·)
      let (lineBreak, c) : Option Char × Cursor :=
        match c.takeBreak? with
        | some (b, c) => (some b, c)
        | none => (none, c)
      match readBreaks (some indent) start fuel c with
      | .error e => .error e
      | .ok (empty, c) =>
        linesWithin literal indent start fuel
          ⟨line.reverse ++ seen.joined literal blankNext, lineBreak, empty.breaks, blankNext,
            empty.stop⟩ c
    else .ok (seen, c)

/-- The text without what the chomping drops; the last character first. -/
def Content.chomped (s : Content) : Chomping → List Char
  | .strip => s.text
  | .clip => s.lineBreak.toList ++ s.text
  | .keep => s.breaks ++ s.lineBreak.toList ++ s.text

/-- The scalar whose header is at the cursor, in a block that is indented by `around`. -/
def read (literal : Bool) (around : Int) (c : Cursor) : Scan Token :=
  let start := c.mark
  match header start (c.skip 1) with
  | .error e => .error e
  | .ok (header, c) =>
    let c := c.skipComment
    if !endsLine c.rest then fault .blockScalar start .noCommentOrBreak c.mark
    else
      let c := c.skipBreak
      let given := header.increment.map fun n => around.toNat + n
      let fuel := c.rest.length + 1
      match readBreaks given start fuel c with
      | .error e => .error e
      | .ok (empty, c) =>
        let indent := given.getD (max empty.widest (max (around + 1).toNat 1))
        match linesWithin literal indent start fuel
            ⟨[], none, empty.breaks, false, empty.stop⟩ c with
        | .error e => .error e
        | .ok (content, c) =>
          let style : ScalarStyle := if literal then .literal else .folded
          .ok (⟨.scalar (String.ofList (content.chomped header.chomping).reverse) style, start,
            content.stop⟩, c)

end TopicGateway.Yaml.BlockScalar
