/-! Code tables. A table gives the characters of a character set by their position. It is put
together from runs of consecutive code points and from rows of characters; all other positions are
empty. -/

namespace TopicGateway.Text

/-- What stands for bytes that cannot be decoded. -/
def unknown : Char := Char.ofNat 0xfffd

/-- Characters by their position; `unknown` stands where there is none. -/
abbrev CodeTable := Array Char

namespace CodeTable

def place (t : CodeTable) (position : Nat) : List Char → CodeTable
  | [] => t
  | c :: rest => place (t.setIfInBounds position c) (position + 1) rest

/-- A table of this size. A run has its position, its first code point and its length; a row has its
position and its characters. -/
def ofParts (size : Nat) (runs : List (Nat × Nat × Nat)) (rows : List (Nat × String)) :
    CodeTable :=
  let empty : CodeTable := Array.replicate size unknown
  let withRuns := runs.foldl (fun t (position, first, count) =>
    t.place position ((List.range count).map fun i => Char.ofNat (first + i))) empty
  rows.foldl (fun t (position, row) => t.place position row.toList) withRuns

def char? (t : CodeTable) (position : Nat) : Option Char :=
  t[position]?.filter (· ≠ unknown)

end CodeTable

end TopicGateway.Text
