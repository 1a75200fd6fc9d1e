import TopicGateway.Yaml.TokenStream

/-! Events. A document as a sequence of scalars, references, and collections that open and close.
The states of the reader are the places in the grammar; what is to follow a node waits on a stack. A
node that is left out is an empty plain scalar. -/

namespace TopicGateway.Yaml

structure Scalar where
  text : String
  style : ScalarStyle
  tag : Option String
  deriving DecidableEq

inductive Event where
  | streamStart
  | streamEnd
  | documentStart
  | documentEnd
  | reference (anchor : String)
  | scalar (anchor : Option String) (s : Scalar)
  | sequenceStart (anchor : Option String)
  | sequenceEnd
  | mappingStart (anchor : Option String)
  | mappingEnd
  deriving DecidableEq

structure Located where
  event : Event
  mark : Mark
  deriving DecidableEq

inductive Place where
  | streamStart
  | documentStart (isFirst : Bool)
  | documentContent
  | documentEnd
  | blockNode
  | blockSequence (isFirst : Bool)
  | indentlessSequence
  | blockMappingKey (isFirst : Bool)
  | blockMappingValue
  | flowSequence (isFirst : Bool)
  | flowPairKey
  | flowPairValue
  | flowPairEnd
  | flowMappingKey (isFirst : Bool)
  | flowMappingValue (isEmpty : Bool)
  | finished
  deriving DecidableEq

structure EventReader where
  tokens : List Token
  /-- The fault behind the tokens. -/
  fault : Option Fault
  place : Place
  /-- The places to go on at behind the nodes that are being read. -/
  returns : List Place
  /-- The starts of the collections that are being read. -/
  starts : List Mark
  /-- What the handles of the document stand for. -/
  handles : List (String × String)

namespace EventReader

abbrev Stop := Option Fault

abbrev Next := Except Stop (Located × EventReader)

def malformed {α : Type} (problem : Problem) (mark : Mark) : Except Stop α :=
  .error (some (.malformed problem mark none))

def malformedDuring {α : Type} (activity : Activity) (start : Mark) (problem : Problem)
    (mark : Mark) : Except Stop α :=
  .error (some (.malformed problem mark (some (activity, start))))

def peek (r : EventReader) : Except Stop Token :=
  match r.tokens with
  | t :: _ => .ok t
  | [] => .error r.fault

def skip (r : EventReader) : EventReader :=
  { r with tokens := r.tokens.drop 1 }

def goto (r : EventReader) (place : Place) : EventReader :=
  { r with place := place }

def back (r : EventReader) : EventReader :=
  match r.returns with
  | p :: ps => { r with place := p, returns := ps }
  | [] => { r with place := .finished }

def returnTo (r : EventReader) (place : Place) : EventReader :=
  { r with returns := place :: r.returns }

def enter (r : EventReader) (start : Mark) : EventReader :=
  { r.skip with starts := start :: r.starts }

def leave (r : EventReader) : EventReader :=
  { r.skip.back with starts := r.starts.drop 1 }

def collectionStart (r : EventReader) : Mark :=
  r.starts.headD .origin

def emptyScalar (mark : Mark) : Located :=
  ⟨.scalar none ⟨"", .plain, none⟩, mark⟩

structure Features where
  anchor : Option String
  tag : Option (String × String × Mark)
  start : Mark

def features (r : EventReader) : Except Stop (Features × EventReader) := do
  let t ← r.peek
  match t.lexeme with
  | .anchor name =>
    let r := r.skip
    let u ← r.peek
    match u.lexeme with
    | .tag handle suffix => pure (⟨some name, some (handle, suffix, u.start), t.start⟩, r.skip)
    | _ => pure (⟨some name, none, t.start⟩, r)
  | .tag handle suffix =>
    let r := r.skip
    let u ← r.peek
    match u.lexeme with
    | .anchor name => pure (⟨some name, some (handle, suffix, t.start), t.start⟩, r.skip)
    | _ => pure (⟨none, some (handle, suffix, t.start), t.start⟩, r)
  | _ => pure (⟨none, none, t.start⟩, r)

def resolveTag (r : EventReader) (f : Features) : Except Stop (Option String) :=
  match f.tag with
  | none => .ok none
  | some (handle, suffix, mark) =>
    if handle.isEmpty then .ok (some suffix)
    else
      match r.handles.lookup handle with
      | some uri => .ok (some (uri ++ suffix))
      | none => malformedDuring .node f.start .undefinedHandle mark

/-- A scalar with its tag; the tag of a single exclamation mark counts as none. -/
def scalarEvent (f : Features) (tag : Option String) (text : String) (style : ScalarStyle) :
    Located :=
  ⟨.scalar f.anchor ⟨text, style, if tag = some "!" then none else tag⟩, f.start⟩

/-- A node. Block collections can stand only in a block; a sequence without indentation of its own
only in a block mapping. -/
def node (r : EventReader) (block indentless : Bool) : Next := do
  let t ← r.peek
  match t.lexeme with
  | .reference anchor => pure (⟨.reference anchor, t.start⟩, r.back.skip)
  | _ =>
    let (f, r) ← r.features
    let tag ← r.resolveTag f
    let t ← r.peek
    let missing : Next :=
      if f.anchor.isSome || tag.isSome then pure (scalarEvent f tag "" .plain, r.back)
      else
        malformedDuring (if block then .blockNode else .flowNode) f.start .noNodeContent t.start
    let sequence (place : Place) : Next := pure (⟨.sequenceStart f.anchor, f.start⟩, r.goto place)
    let mapping (place : Place) : Next := pure (⟨.mappingStart f.anchor, f.start⟩, r.goto place)
    match t.lexeme with
    | .blockEntry => if indentless then sequence .indentlessSequence else missing
    | .scalar text style => pure (scalarEvent f tag text style, r.back.skip)
    | .flowSequenceStart => sequence (.flowSequence true)
    | .flowMappingStart => mapping (.flowMappingKey true)
    | .blockSequenceStart => if block then sequence (.blockSequence true) else missing
    | .blockMappingStart => if block then mapping (.blockMappingKey true) else missing
    | _ => missing

def nodeThen (r : EventReader) (place : Place) (block indentless : Bool) : Next :=
  (r.returnTo place).node block indentless

def emptyThen (r : EventReader) (place : Place) (mark : Mark) : Next :=
  .ok (emptyScalar mark, r.goto place)

def standardHandles : List (String × String) :=
  [("!", "!"), ("!!", "tag:yaml.org,2002:")]

def directivesWithin : Nat → Bool → EventReader → Except Stop EventReader
  | 0, _, r => .ok r
  | fuel + 1, versioned, r => do
    let t ← r.peek
    match t.lexeme with
    | .versionDirective major minor =>
      if versioned then malformed .duplicateVersion t.start
      else if major ≠ 1 ∨ (minor ≠ 1 ∧ minor ≠ 2) then malformed .incompatibleVersion t.start
      else directivesWithin fuel true r.skip
    | .tagDirective handle uri =>
      if (r.handles.lookup handle).isSome then malformed .duplicateHandle t.start
      else
        let r := { r.skip with handles := r.handles ++ [(handle, uri)] }
        directivesWithin fuel versioned r
    | _ => pure { r with handles := r.handles ++ standardHandles }

def directives (r : EventReader) : Except Stop EventReader :=
  directivesWithin (r.tokens.length + 1) false r

def skipDocumentEnds (r : EventReader) : EventReader :=
  { r with tokens := r.tokens.dropWhile (·.lexeme = .documentEnd) }

def documentStart (r : EventReader) (isFirst : Bool) : Next := do
  let r := if isFirst then r else r.skipDocumentEnds
  let t ← r.peek
  let explicit : Next := do
    let r ← r.directives
    let u ← r.peek
    if u.lexeme = .documentStart then
      pure (⟨.documentStart, t.start⟩, (r.returnTo .documentEnd).skip.goto .documentContent)
    else malformed .noDocumentStart u.start
  match t.lexeme with
  | .streamEnd => pure (⟨.streamEnd, t.start⟩, r.skip.goto .finished)
  | .versionDirective _ _ | .tagDirective _ _ | .documentStart => explicit
  | _ =>
    if isFirst then
      let r ← r.directives
      pure (⟨.documentStart, t.start⟩, (r.returnTo .documentEnd).goto .blockNode)
    else explicit

def documentContent (r : EventReader) : Next := do
  let t ← r.peek
  match t.lexeme with
  | .versionDirective _ _ | .tagDirective _ _ | .documentStart | .documentEnd | .streamEnd =>
    pure (emptyScalar t.start, r.back)
  | _ => r.node true false

def documentEnd (r : EventReader) : Next := do
  let t ← r.peek
  let r := if t.lexeme = .documentEnd then r.skip else r
  pure (⟨.documentEnd, t.start⟩, { r with place := .documentStart false, handles := [] })

def blockSequence (r : EventReader) : Next := do
  let t ← r.peek
  match t.lexeme with
  | .blockEntry =>
    let r := r.skip
    let u ← r.peek
    match u.lexeme with
    | .blockEntry | .blockEnd => r.emptyThen (.blockSequence false) t.stop
    | _ => r.nodeThen (.blockSequence false) true false
  | .blockEnd => pure (⟨.sequenceEnd, t.start⟩, r.leave)
  | _ => malformedDuring .blockSequence r.collectionStart .noEntry t.start

def indentlessSequence (r : EventReader) : Next := do
  let t ← r.peek
  match t.lexeme with
  | .blockEntry =>
    let r := r.skip
    let u ← r.peek
    match u.lexeme with
    | .blockEntry | .key | .value | .blockEnd => r.emptyThen .indentlessSequence t.stop
    | _ => r.nodeThen .indentlessSequence true false
  | _ => pure (⟨.sequenceEnd, t.start⟩, r.back)

def blockMappingKey (r : EventReader) : Next := do
  let t ← r.peek
  match t.lexeme with
  | .key =>
    let r := r.skip
    let u ← r.peek
    match u.lexeme with
    | .key | .value | .blockEnd => r.emptyThen .blockMappingValue t.stop
    | _ => r.nodeThen .blockMappingValue true true
  | .blockEnd => pure (⟨.mappingEnd, t.start⟩, r.leave)
  | _ => malformedDuring .blockMapping r.collectionStart .noKey t.start

def blockMappingValue (r : EventReader) : Next := do
  let t ← r.peek
  match t.lexeme with
  | .value =>
    let r := r.skip
    let u ← r.peek
    match u.lexeme with
    | .key | .value | .blockEnd => r.emptyThen (.blockMappingKey false) t.stop
    | _ => r.nodeThen (.blockMappingKey false) true true
  | _ => r.emptyThen (.blockMappingKey false) t.start

def flowComma (r : EventReader) (isFirst : Bool) (activity : Activity) (problem : Problem) :
    Except Stop EventReader := do
  if isFirst then pure r
  else
    let t ← r.peek
    if t.lexeme = .flowEntry then pure r.skip
    else malformedDuring activity r.collectionStart problem t.start

def flowSequence (r : EventReader) (isFirst : Bool) : Next := do
  let t ← r.peek
  if t.lexeme = .flowSequenceEnd then pure (⟨.sequenceEnd, t.start⟩, r.leave)
  else
    let r ← r.flowComma isFirst .flowSequence .noCommaOrBracket
    let t ← r.peek
    match t.lexeme with
    | .key => pure (⟨.mappingStart none, t.start⟩, r.skip.goto .flowPairKey)
    | .flowSequenceEnd => pure (⟨.sequenceEnd, t.start⟩, r.leave)
    | _ => r.nodeThen (.flowSequence false) false false

/-- The key of a single pair in a sequence. Where it is left out, the token that shows this is
passed over. -/
def flowPairKey (r : EventReader) : Next := do
  let t ← r.peek
  match t.lexeme with
  | .value | .flowEntry | .flowSequenceEnd => r.skip.emptyThen .flowPairValue t.stop
  | _ => r.nodeThen .flowPairValue false false

def flowPairValue (r : EventReader) : Next := do
  let t ← r.peek
  match t.lexeme with
  | .value =>
    let r := r.skip
    let u ← r.peek
    match u.lexeme with
    | .flowEntry | .flowSequenceEnd => r.emptyThen .flowPairEnd u.start
    | _ => r.nodeThen .flowPairEnd false false
  | _ => r.emptyThen .flowPairEnd t.start

def flowPairEnd (r : EventReader) : Next := do
  let t ← r.peek
  pure (⟨.mappingEnd, t.start⟩, r.goto (.flowSequence false))

def flowMappingKey (r : EventReader) (isFirst : Bool) : Next := do
  let t ← r.peek
  if t.lexeme = .flowMappingEnd then pure (⟨.mappingEnd, t.start⟩, r.leave)
  else
    let r ← r.flowComma isFirst .flowMapping .noCommaOrBrace
    let t ← r.peek
    match t.lexeme with
    | .key =>
      let r := r.skip
      let u ← r.peek
      match u.lexeme with
      | .value | .flowEntry | .flowMappingEnd => r.emptyThen (.flowMappingValue false) u.start
      | _ => r.nodeThen (.flowMappingValue false) false false
    | .flowMappingEnd => pure (⟨.mappingEnd, t.start⟩, r.leave)
    | _ => r.nodeThen (.flowMappingValue true) false false

def flowMappingValue (r : EventReader) (isEmpty : Bool) : Next := do
  let t ← r.peek
  if !isEmpty && t.lexeme = .value then
    let r := r.skip
    let u ← r.peek
    match u.lexeme with
    | .flowEntry | .flowMappingEnd => r.emptyThen (.flowMappingKey false) u.start
    | _ => r.nodeThen (.flowMappingKey false) false false
  else r.emptyThen (.flowMappingKey false) t.start

/-- Into the collection, where its first entry is about to be read. -/
def entered (r : EventReader) (isFirst : Bool) (read : EventReader → Next) : Next := do
  if isFirst then
    let t ← r.peek
    read (r.enter t.start)
  else read r

def next (r : EventReader) : Next :=
  match r.place with
  | .streamStart => do
    let t ← r.peek
    pure (⟨.streamStart, t.start⟩, r.skip.goto (.documentStart true))
  | .documentStart isFirst => r.documentStart isFirst
  | .documentContent => r.documentContent
  | .documentEnd => r.documentEnd
  | .blockNode => r.node true false
  | .blockSequence isFirst => r.entered isFirst blockSequence
  | .indentlessSequence => r.indentlessSequence
  | .blockMappingKey isFirst => r.entered isFirst blockMappingKey
  | .blockMappingValue => r.blockMappingValue
  | .flowSequence isFirst => r.entered isFirst (flowSequence · isFirst)
  | .flowPairKey => r.flowPairKey
  | .flowPairValue => r.flowPairValue
  | .flowPairEnd => r.flowPairEnd
  | .flowMappingKey isFirst => r.entered isFirst (flowMappingKey · isFirst)
  | .flowMappingValue isEmpty => r.flowMappingValue isEmpty
  | .finished => .error none

def start (tokens : TokenStream) : EventReader :=
  ⟨tokens.tokens, tokens.fault, .streamStart, [], [], []⟩

end EventReader

structure EventStream where
  events : List Located
  fault : Option Fault

namespace EventStream

/-- The events from a reader's place on; those before it are `seen`, the last one first. -/
def within : Nat → List Located → EventReader → EventStream
  | 0, seen, _ => ⟨seen.reverse, none⟩
  | fuel + 1, seen, r =>
    match r.next with
    | .error stop => ⟨seen.reverse, stop⟩
    | .ok (e, r) => within fuel (e :: seen) r

/-- A token gives at most four events. -/
def ofTokens (tokens : TokenStream) : EventStream :=
  within (4 * tokens.tokens.length + 4) [] (.start tokens)

end EventStream

end TopicGateway.Yaml
