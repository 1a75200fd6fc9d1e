import TopicGateway.Yaml.Value

/-! Reading records from YAML. A record is a mapping; an empty plain scalar, or no document at all,
is a mapping without entries. Entries that are no field are passed over. A reader takes the nodes
from a place on and gives those behind the value. What is wrong inside a value is told at the
value's path; what concerns the record as a whole, at the record's. -/

namespace TopicGateway.Yaml

abbrev Answer (α : Type) := Except Fault (α × List Placed)

abbrev ReadAt (α : Type) := Document → Path → List Placed → Answer α

namespace Document

def exhausted (d : Document) : Fault :=
  d.fault.getD .endOfEvents

/-- The first node, and the nodes behind the one or the whole collection that it begins. For a
reference `inside` are the nodes that the referenced collection begins with, otherwise those behind
the first node. -/
structure First where
  node : Node
  mark : Mark
  inside : List Placed
  isReference : Bool
  behind : List Placed

/-- The first node; a reference is followed. -/
def first (d : Document) : List Placed → Except Fault First
  | [] => .error d.exhausted
  | (.reference place, _) :: rest =>
    match d.nodesFrom place with
    | (node, mark) :: inside => .ok ⟨node, mark, inside, true, rest⟩
    | [] => .error d.exhausted
  | (node, mark) :: rest => .ok ⟨node, mark, rest, false, rest⟩

/-- Behind a collection that ends in front of `inner`: there, or behind the reference to it. -/
def First.after (f : First) (inner : List Placed) : List Placed :=
  if f.isReference then f.behind else inner

end Document

/-- What is wrong with a node of which something else is expected. -/
def Node.mismatch (n : Node) (expected : String) : Option Mismatch :=
  match n with
  | .scalar s => some (s.mismatch expected)
  | .sequenceStart => some (.wrongKind .list expected)
  | .mappingStart => some (.wrongKind .object expected)
  | .void | .reference _ | .sequenceEnd | .mappingEnd => none

def unexpected {α : Type} (path : Path) (f : Document.First) (expected : String) : Answer α :=
  match f.node.mismatch expected with
  | some what => .error (.mismatch path what f.mark)
  | none => .error .endOfEvents

def readText (expected : String) : ReadAt String := fun d path nodes =>
  match d.first nodes with
  | .error e => .error e
  | .ok f =>
    match f.node with
    | .scalar s => .ok (s.text, f.behind)
    | _ => unexpected path f expected

def readString : ReadAt String :=
  readText "a string"

def readFloat : ReadAt Binary64 := fun d path nodes =>
  match d.first nodes with
  | .error e => .error e
  | .ok f =>
    match f.node with
    | .scalar s =>
      match s.toFloat? with
      | some x => .ok (x, f.behind)
      | none => unexpected path f "f64"
    | _ => unexpected path f "f64"

/-- The value whose nodes come next is passed over; `depth` counts the collections it has open. -/
def skipValue (d : Document) : Nat → List Placed → Except Fault (List Placed)
  | _, [] => .error d.exhausted
  | depth, (node, _) :: rest =>
    match node with
    | .sequenceStart | .mappingStart => skipValue d (depth + 1) rest
    | .sequenceEnd | .mappingEnd => if depth ≤ 1 then .ok rest else skipValue d (depth - 1) rest
    | .scalar _ | .reference _ | .void => if depth = 0 then .ok rest else skipValue d depth rest

/-- The items up to the end of a sequence; those before them are `seen`, the last one first. -/
def itemsWithin {α : Type} (item : ReadAt α) (d : Document) (path : Path) :
    Nat → List α → List Placed → Answer (List α)
  | 0, _, _ => .error d.exhausted
  | fuel + 1, seen, nodes =>
    match nodes with
    | [] => .error d.exhausted
    | (.sequenceEnd, _) :: rest => .ok (seen.reverse, rest)
    | _ =>
      match item d (.index seen.length :: path) nodes with
      | .error e => .error e
      | .ok (a, rest) => itemsWithin item d path fuel (a :: seen) rest

/-- A sequence; an empty plain scalar is one without items. -/
def readItems {α : Type} (item : ReadAt α) : ReadAt (List α) := fun d path nodes =>
  match d.first nodes with
  | .error e => .error e
  | .ok f =>
    match f.node with
    | .sequenceStart =>
      (itemsWithin item d path (f.inside.length + 1) [] f.inside).map fun (items, inner) =>
        (items, f.after inner)
    | .void => .ok ([], f.behind)
    | .scalar s => if s.isEmpty then .ok ([], f.behind) else unexpected path f "a sequence"
    | _ => unexpected path f "a sequence"

structure Field (σ : Type) where
  name : String
  /-- Reads the field's value and puts it into the record. -/
  read : σ → ReadAt σ

/-- What a record is called in messages, and its fields. All of them may be left out. -/
structure Record (σ : Type) where
  name : String
  fields : List (Field σ)

namespace Record

variable {σ : Type} (r : Record σ)

def stepOf : List Placed → Step
  | (.scalar s, _) :: _ => .key s.text
  | _ => .unnamed

/-- The entries up to the end of a mapping that begins at `start`; `given` names the fields that have
a value. -/
def entriesWithin (d : Document) (path : Path) (start : Mark) :
    Nat → List String → σ → List Placed → Answer σ
  | 0, _, _, _ => .error d.exhausted
  | fuel + 1, given, record, nodes =>
    match nodes with
    | [] => .error d.exhausted
    | (.mappingEnd, _) :: rest => .ok (record, rest)
    | _ =>
      match readText "field identifier" d path nodes with
      | .error e => .error e
      | .ok (key, rest) =>
        match r.fields.find? (·.name = key) with
        | some field =>
          if given.contains key then .error (.mismatch path (.duplicate key) start)
          else
            match field.read record d (stepOf nodes :: path) rest with
            | .error e => .error e
            | .ok (record, rest) => entriesWithin d path start fuel (key :: given) record rest
        | none =>
          match skipValue d 0 rest with
          | .error e => .error e
          | .ok rest => entriesWithin d path start fuel given record rest

def read (start : σ) : ReadAt σ := fun d path nodes =>
  let expected := "struct " ++ r.name
  match d.first nodes with
  | .error e => .error e
  | .ok f =>
    match f.node with
    | .mappingStart =>
      (r.entriesWithin d path f.mark (f.inside.length + 1) [] start f.inside).map
        fun (record, inner) => (record, f.after inner)
    | .void => .ok (start, f.behind)
    | .scalar s => if s.isEmpty then .ok (start, f.behind) else unexpected path f expected
    | _ => unexpected path f expected

/-- The record that a text holds. What is wrong with a value is told before what is wrong with the
text behind it. -/
def readWhole (start : σ) (text : String) : Except Fault σ :=
  let d := Document.read text
  match r.read start d [] d.nodes with
  | .error e => .error e
  | .ok (record, _) =>
    match d.fault with
    | some e => .error e
    | none => if d.followed then .error .severalDocuments else .ok record

end Record

end TopicGateway.Yaml
