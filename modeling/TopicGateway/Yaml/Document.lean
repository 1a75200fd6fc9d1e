import TopicGateway.Yaml.Event

/-! Documents. The nodes of a text's one document, in reading order. References are resolved to the
place of the node that they stand for. Anchors are counted by their names: one that is given again
takes the number of the next new name. -/

namespace TopicGateway.Yaml

inductive Node where
  /-- There is no document at all. -/
  | void
  /-- The node at this place in the document. -/
  | reference (place : Nat)
  | scalar (s : Scalar)
  | sequenceStart
  | sequenceEnd
  | mappingStart
  | mappingEnd
  deriving DecidableEq

abbrev Placed := Node × Mark

/-- Nodes up to the end of a document or to the fault at which they break off, and whether anything
comes behind the document. -/
structure Document where
  nodes : List Placed
  fault : Option Fault
  followed : Bool

/-- What a document has so far: its nodes with the last one first, the numbers of its anchors, and
the places of the nodes with these numbers. -/
structure Draft where
  nodes : List Placed
  numbers : List (String × Nat)
  places : List (Nat × Nat)

namespace Draft

def empty : Draft := ⟨[], [], []⟩

def add (d : Draft) (node : Node) (mark : Mark) : Draft :=
  { d with nodes := (node, mark) :: d.nodes }

def names (d : Draft) : Nat :=
  (d.numbers.map Prod.fst).eraseDups.length

def anchored (d : Draft) : Option String → Draft
  | none => d
  | some name =>
    { d with
      numbers := (name, d.names) :: d.numbers, places := (d.names, d.nodes.length) :: d.places }

def place? (d : Draft) (name : String) : Option Nat :=
  (d.numbers.lookup name).bind fun number => d.places.lookup number

end Draft

namespace Document

/-- The first document of the events; `fault` is where they break off. -/
def ofEvents (fault : Option Fault) : Draft → List Located → Document
  | d, [] => ⟨d.nodes.reverse, fault, true⟩
  | d, ⟨event, mark⟩ :: events =>
    match event with
    | .streamStart | .documentStart => ofEvents fault d events
    | .streamEnd => ⟨[(.void, mark)], none, false⟩
    | .documentEnd => ⟨d.nodes.reverse, none, events.head?.map Located.event ≠ some .streamEnd⟩
    | .reference anchor =>
      match d.place? anchor with
      | some place => ofEvents fault (d.add (.reference place) mark) events
      | none => ⟨d.nodes.reverse, some (.unknownAnchor mark), true⟩
    | .scalar anchor s => ofEvents fault ((d.anchored anchor).add (.scalar s) mark) events
    | .sequenceStart anchor => ofEvents fault ((d.anchored anchor).add .sequenceStart mark) events
    | .sequenceEnd => ofEvents fault (d.add .sequenceEnd mark) events
    | .mappingStart anchor => ofEvents fault ((d.anchored anchor).add .mappingStart mark) events
    | .mappingEnd => ofEvents fault (d.add .mappingEnd mark) events

def isAllowed (c : Char) : Bool :=
  let n := c.toNat
  c = '\t' || c = '\n' || c = '\r' || (0x20 ≤ n && n ≤ 0x7e) || n == 0x85 ||
    (0xa0 ≤ n && n ≤ 0xd7ff) || (0xe000 ≤ n && n ≤ 0xfffd) || 0x10000 ≤ n

/-- How many bytes stand before the first character that is not allowed. -/
def badOffset? : Nat → List Char → Option Nat
  | _, [] => none
  | offset, c :: cs => if isAllowed c then badOffset? (offset + c.utf8Size) cs else some offset

def read (text : String) : Document :=
  match badOffset? 0 text.toList with
  | some offset => ⟨[], some (.control offset), true⟩
  | none =>
    let events := EventStream.ofTokens (.ofChars text.toList)
    ofEvents events.fault .empty events.events

def nodesFrom (d : Document) (place : Nat) : List Placed :=
  d.nodes.drop place

end Document

end TopicGateway.Yaml
