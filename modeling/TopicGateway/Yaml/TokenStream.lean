import TopicGateway.Yaml.BlockScalar
import TopicGateway.Yaml.PlainScalar
import TopicGateway.Yaml.QuotedScalar
import TopicGateway.Yaml.Tag

/-! The tokens of a text. Whether a scalar or a collection is a mapping key shows only at the colon
behind it, where the key token is put in front of it. So a token that may yet turn out to be a key
waits, and so do those behind it. Such a token must be followed by its colon on the same line and
within 1024 characters. Where the text is at fault, the tokens that were not waiting come before the
fault. -/

namespace TopicGateway.Yaml

structure PendingKey where
  /-- There is no other way to read it. -/
  required : Bool
  /-- Its number among all tokens. -/
  number : Nat
  mark : Mark

structure Scanner where
  cursor : Cursor
  /-- Tokens that wait. -/
  waiting : List Token
  /-- How many tokens came before those that wait. -/
  released : Nat
  /-- The column of the block around; -1 outside of all blocks. -/
  indent : Int
  /-- The columns of the blocks further out, the nearest first. -/
  outerIndents : List Int
  /-- A key may begin at the next token. -/
  keyAllowed : Bool
  /-- The pending key of the innermost flow collection, or of the block context. -/
  key : Option PendingKey
  /-- The pending keys around each flow collection, the innermost first. -/
  outerKeys : List (Option PendingKey)
  ended : Bool

namespace Scanner

def start (text : List Char) : Scanner where
  cursor := ⟨.origin, text⟩
  waiting := [⟨.streamStart, .origin, .origin⟩]
  released := 0
  indent := -1
  outerIndents := []
  keyAllowed := true
  key := none
  outerKeys := []
  ended := false

def inFlow (s : Scanner) : Bool :=
  !s.outerKeys.isEmpty

def column (s : Scanner) : Int :=
  s.cursor.column

def add (s : Scanner) (t : Token) : Scanner :=
  { s with waiting := s.waiting ++ [t] }

def longestKey : Nat := 1024

def PendingKey.isStale (k : PendingKey) (m : Mark) : Bool :=
  k.mark.line < m.line || k.mark.index + longestKey < m.index

/-- A key that is not stale at the mark; a stale one must not have been required. -/
def refresh (m : Mark) : Option PendingKey → Except Fault (Option PendingKey)
  | none => .ok none
  | some k =>
    if PendingKey.isStale k m then
      if k.required then fault .simpleKey k.mark .noColon m else .ok none
    else .ok (some k)

def refreshOuter (m : Mark) : List (Option PendingKey) → Except Fault (List (Option PendingKey))
  | [] => .ok []
  | k :: outer =>
    match refreshOuter m outer with
    | .error e => .error e
    | .ok outer => (refresh m k).map (· :: outer)

def dropStale (s : Scanner) : Except Fault Scanner :=
  match refreshOuter s.cursor.mark s.outerKeys with
  | .error e => .error e
  | .ok outer => (refresh s.cursor.mark s.key).map fun k => { s with key := k, outerKeys := outer }

def dropKey (s : Scanner) : Except Fault Scanner :=
  match s.key with
  | some k =>
    if k.required then fault .simpleKey k.mark .noColon s.cursor.mark
    else .ok { s with key := none }
  | none => .ok s

def markKey (s : Scanner) : Except Fault Scanner :=
  if s.keyAllowed then
    s.dropKey.map fun s =>
      { s with key := some ⟨!s.inFlow && s.indent = s.column, s.released + s.waiting.length,
        s.cursor.mark⟩ }
  else .ok s

def unindentWithin (column : Int) (m : Mark) : List Int → Scanner → Scanner
  | [], s => s
  | outer :: outers, s =>
    if column < s.indent then
      unindentWithin column m outers
        { s.add ⟨.blockEnd, m, m⟩ with indent := outer, outerIndents := outers }
    else s

def unindent (column : Int) (s : Scanner) : Scanner :=
  if s.inFlow then s else unindentWithin column s.cursor.mark s.outerIndents s

/-- Puts a token in front of the one with this number, or behind all. -/
def insert (s : Scanner) (number : Option Nat) (t : Token) : Scanner :=
  match number with
  | none => s.add t
  | some n =>
    let before := n - s.released
    { s with waiting := s.waiting.take before ++ t :: s.waiting.drop before }

/-- A block begins if its column is to the right of the block around. -/
def indentTo (s : Scanner) (m : Mark) (number : Option Nat) (lexeme : Lexeme) : Scanner :=
  if !s.inFlow && s.indent < (m.column : Int) then
    { s.insert number ⟨lexeme, m, m⟩ with
      indent := m.column, outerIndents := s.indent :: s.outerIndents }
  else s

def addSign (s : Scanner) (lexeme : Lexeme) (length : Nat) : Scanner :=
  let after := s.cursor.skip length
  { s.add ⟨lexeme, s.cursor.mark, after.mark⟩ with cursor := after }

def addScanned (s : Scanner) (t : Token) (after : Cursor) : Scanner :=
  { s.add t with cursor := after }

def endOfText (s : Scanner) : Except Fault Scanner :=
  let m := s.cursor.mark
  let m := if m.column = 0 then m else ⟨m.index, m.line + 1, 0⟩
  (unindent (-1) { s with cursor := ⟨m, []⟩ }).dropKey.map fun s =>
    { s.add ⟨.streamEnd, m, m⟩ with keyAllowed := false, ended := true }

def directive (s : Scanner) : Except Fault Scanner := do
  let s ← (s.unindent (-1)).dropKey
  let (t, after) ← Directive.read s.cursor
  pure { s.addScanned t after with keyAllowed := false }

def documentSign (s : Scanner) (lexeme : Lexeme) : Except Fault Scanner := do
  let s ← (s.unindent (-1)).dropKey
  pure { s.addSign lexeme 3 with keyAllowed := false }

def openFlow (s : Scanner) (lexeme : Lexeme) : Except Fault Scanner := do
  let s ← s.markKey
  pure { s.addSign lexeme 1 with
    key := none, outerKeys := s.key :: s.outerKeys, keyAllowed := true }

def closeFlow (s : Scanner) (lexeme : Lexeme) : Except Fault Scanner := do
  let s ← s.dropKey
  let s := match s.outerKeys with
    | [] => s
    | k :: outer => { s with key := k, outerKeys := outer }
  pure { s.addSign lexeme 1 with keyAllowed := false }

def flowEntry (s : Scanner) : Except Fault Scanner := do
  let s ← s.dropKey
  pure { s.addSign .flowEntry 1 with keyAllowed := true }

def notAllowed (s : Scanner) (problem : Problem) : Except Fault Scanner :=
  .error (.malformed problem s.cursor.mark none)

/-- A dash. In a flow collection it is let pass, to be refused where no node is. -/
def blockEntry (s : Scanner) : Except Fault Scanner :=
  if !s.inFlow && !s.keyAllowed then s.notAllowed .entryNotAllowed
  else do
    let s ← (s.indentTo s.cursor.mark none .blockSequenceStart).dropKey
    pure { s.addSign .blockEntry 1 with keyAllowed := true }

def explicitKey (s : Scanner) : Except Fault Scanner :=
  if !s.inFlow && !s.keyAllowed then s.notAllowed .keyNotAllowed
  else do
    let s ← (s.indentTo s.cursor.mark none .blockMappingStart).dropKey
    pure { s.addSign .key 1 with keyAllowed := !s.inFlow }

/-- A colon: behind a pending key, which it makes one, or on its own. -/
def value (s : Scanner) : Except Fault Scanner :=
  match s.key with
  | some k =>
    let s := s.insert (some k.number) ⟨.key, k.mark, k.mark⟩
    let s := s.indentTo k.mark (some k.number) .blockMappingStart
    .ok { s.addSign .value 1 with key := none, keyAllowed := false }
  | none =>
    if !s.inFlow && !s.keyAllowed then s.notAllowed .valueNotAllowed
    else
      let s := s.indentTo s.cursor.mark none .blockMappingStart
      .ok { s.addSign .value 1 with keyAllowed := !s.inFlow }

def keyPart (s : Scanner) (read : Cursor → Scan Token) : Except Fault Scanner := do
  let s ← s.markKey
  let (t, after) ← read s.cursor
  pure { s.addScanned t after with keyAllowed := false }

def blockScalar (s : Scanner) (literal : Bool) : Except Fault Scanner := do
  let s ← s.dropKey
  let (t, after) ← BlockScalar.read literal s.indent s.cursor
  pure { s.addScanned t after with keyAllowed := true }

/-- A scalar without quotes; a key may begin on the line behind it. -/
def plainScalar (s : Scanner) : Except Fault Scanner := do
  let s ← s.markKey
  let ((t, broken), after) ← PlainScalar.read s.inFlow (s.indent + 1) s.cursor
  pure { s.addScanned t after with keyAllowed := broken }

def isIndicator (c : Char) : Bool :=
  ['-', '?', ':', ',', '[', ']', '\x7b', '\x7d', '#', '&', '*', '!', '|', '>', '\'', '"', '%', '@',
    '\x60'].contains c

/-- A plain scalar begins with `a`, if `rest` follows. -/
def startsPlain (inFlow : Bool) (a : Char) (rest : List Char) : Bool :=
  !(isBlankOrBreak a || isIndicator a) ||
    (a = '-' && !startsWith isBlank rest) ||
    (!inFlow && (a = '?' || a = ':') && !endsWord rest)

def tokenAt (s : Scanner) (a : Char) (rest : List Char) : Except Fault Scanner :=
  if s.cursor.column = 0 ∧ a = '%' then s.directive
  else if s.cursor.atIndicator '-' then s.documentSign .documentStart
  else if s.cursor.atIndicator '.' then s.documentSign .documentEnd
  else if a = '[' then s.openFlow .flowSequenceStart
  else if a = '\x7b' then s.openFlow .flowMappingStart
  else if a = ']' then s.closeFlow .flowSequenceEnd
  else if a = '\x7d' then s.closeFlow .flowMappingEnd
  else if a = ',' then s.flowEntry
  else if a = '-' ∧ endsWord rest then s.blockEntry
  else if a = '?' ∧ (s.inFlow || endsWord rest) then s.explicitKey
  else if a = ':' ∧ (s.inFlow || endsWord rest) then s.value
  else if a = '*' then s.keyPart (readAnchor true)
  else if a = '&' then s.keyPart (readAnchor false)
  else if a = '!' then s.keyPart (Tag.read s.inFlow)
  else if a = '|' ∧ !s.inFlow then s.blockScalar true
  else if a = '>' ∧ !s.inFlow then s.blockScalar false
  else if a = '\'' then s.keyPart (QuotedScalar.read true)
  else if a = '"' then s.keyPart (QuotedScalar.read false)
  else if startsPlain s.inFlow a rest then s.plainScalar
  else fault .token s.cursor.mark .noTokenStart s.cursor.mark

/-- Past blanks, comments and line breaks. A tab is no blank where a key may begin. In the block
context a key may begin on a new line. -/
def toTokenWithin : Nat → Scanner → Scanner
  | 0, s => s
  | fuel + 1, s =>
    let c := s.cursor
    let c := if c.column = 0 && startsWith (· = '\ufeff') c.rest then c.skip 1 else c
    let tabs := s.inFlow || !s.keyAllowed
    let c := c.skipWhile fun a => a = ' ' || (tabs && a = '\t')
    let c := if startsWith (· = '#') c.rest then c.skipWhile (!isBreak ·) else c
    match c.takeBreak? with
    | some (_, c) =>
      toTokenWithin fuel { s with cursor := c, keyAllowed := s.keyAllowed || !s.inFlow }
    | none => { s with cursor := c }

def toToken (s : Scanner) : Scanner :=
  s.toTokenWithin (s.cursor.rest.length + 1)

/-- Scans one more token with the block ends and block starts that belong to it. -/
def next (s : Scanner) : Except Fault Scanner := do
  let s ← s.toToken.dropStale
  let s := s.unindent s.column
  match s.cursor.rest with
  | [] => s.endOfText
  | a :: rest => s.tokenAt a rest

/-- The number of the first token that has to wait for a colon. -/
def isPending (s : Scanner) (number : Nat) : Bool :=
  (s.key :: s.outerKeys).any fun k => k.any (·.number = number)

def releaseWithin : Nat → List Token → Scanner → List Token × Scanner
  | 0, taken, s => (taken.reverse, s)
  | fuel + 1, taken, s =>
    match s.waiting with
    | [] => (taken.reverse, s)
    | t :: ts =>
      if s.isPending s.released then (taken.reverse, s)
      else releaseWithin fuel (t :: taken) { s with waiting := ts, released := s.released + 1 }

def release (s : Scanner) : List Token × Scanner :=
  releaseWithin s.waiting.length [] s

end Scanner

structure TokenStream where
  tokens : List Token
  fault : Option Fault

namespace TokenStream

/-- The tokens from a scanner's place on; those before it are `taken`, the last one first. -/
def within : Nat → List Token → Scanner → TokenStream
  | 0, taken, _ => ⟨taken.reverse, none⟩
  | fuel + 1, taken, s =>
    let (ready, s) := s.release
    let taken := ready.reverse ++ taken
    if s.ended then ⟨(s.waiting.reverse ++ taken).reverse, none⟩
    else
      match s.next.bind Scanner.dropStale with
      | .error e => ⟨taken.reverse, some e⟩
      | .ok s => within fuel taken s

def ofChars (text : List Char) : TokenStream :=
  within (text.length + 2) [] (.start text)

end TokenStream

end TopicGateway.Yaml
