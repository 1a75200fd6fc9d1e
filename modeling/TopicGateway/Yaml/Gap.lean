import TopicGateway.Yaml.Cursor

/-! Gaps in flow scalars. Blanks and line breaks between two pieces of a plain or quoted scalar. On
one line they are kept. A single line break becomes a space; of several the first is dropped and the
others are kept. Blanks next to a line break are dropped. -/

namespace TopicGateway.Yaml

structure Gap where
  /-- The blanks, as long as there is no line break; the last one first. -/
  spaces : List Char
  /-- There was a line break, or an escaped one. -/
  broken : Bool
  first : Option Char
  /-- The line breaks after the first; the last one first. -/
  later : List Char
  deriving DecidableEq

namespace Gap

def none : Gap := ⟨[], false, .none, []⟩

/-- Behind an escaped line break, which itself stands for nothing. -/
def escaped : Gap := ⟨[], true, .none, []⟩

def blank (g : Gap) (c : Char) : Gap :=
  if g.broken then g else { g with spaces := c :: g.spaces }

def lineBreak (g : Gap) (c : Char) : Gap :=
  if g.broken then { g with later := c :: g.later } else ⟨[], true, some c, []⟩

/-- What the gap stands for; the last character first. -/
def folded (g : Gap) : List Char :=
  if g.broken then
    match g.first with
    | some '\n' => if g.later.isEmpty then [' '] else g.later
    | some c => g.later ++ [c]
    | .none => g.later
  else g.spaces

def readWithin : Nat → Gap → Cursor → Gap × Cursor
  | 0, g, c => (g, c)
  | fuel + 1, g, c =>
    match c.rest with
    | [] => (g, c)
    | a :: _ =>
      if isBlank a then readWithin fuel (g.blank a) (c.skip 1)
      else
        match c.takeBreak? with
        | some (b, c) => readWithin fuel (g.lineBreak b) c
        | .none => (g, c)

end Gap

end TopicGateway.Yaml
