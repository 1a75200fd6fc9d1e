/-! White space and blank text. A text is blank when every character of it is Unicode white space.
`trim` cuts white space off both ends and leaves the inside alone. -/

namespace TopicGateway.Text

/-- Unicode `White_Space`. -/
def isWhite (c : Char) : Bool :=
  let n := c.toNat
  (9 ≤ n && n ≤ 13) || n == 0x20 || n == 0x85 || n == 0xa0 || n == 0x1680 ||
    (0x2000 ≤ n && n ≤ 0x200a) || n == 0x2028 || n == 0x2029 || n == 0x202f || n == 0x205f ||
    n == 0x3000

def trimStart (cs : List Char) : List Char :=
  cs.dropWhile isWhite

def trimEnd (cs : List Char) : List Char :=
  (cs.reverse.dropWhile isWhite).reverse

def trim (s : String) : String :=
  String.ofList (trimEnd (trimStart s.toList))

def blank (s : String) : Bool :=
  s.toList.all isWhite

def nonBlank (s : Option String) : Option String :=
  s.filter fun t => !blank t

/-- ASCII letters become lower case, everything else stays. -/
def lowerAscii (s : String) : String :=
  s.map Char.toLower

theorem nonBlank_eq_some_iff {s : Option String} {t : String} :
    nonBlank s = some t ↔ s = some t ∧ blank t = false := by
  simp [nonBlank, Option.filter_eq_some_iff]

theorem mem_dropWhile_isWhite {c : Char} (seen : isWhite c = false) (cs : List Char) :
    c ∈ cs.dropWhile isWhite ↔ c ∈ cs := by
  induction cs with
  | nil => rfl
  | cons d cs ih =>
    by_cases white : isWhite d
    · rw [List.dropWhile_cons_of_pos white, ih, List.mem_cons]
      constructor
      · exact .inr
      · rintro (rfl | inside)
        · rw [seen] at white
          cases white
        · exact inside
    · rw [List.dropWhile_cons_of_neg white]

/-- Cutting white space off the ends keeps every other character. -/
theorem mem_trim {c : Char} (seen : isWhite c = false) (s : String) :
    c ∈ (trim s).toList ↔ c ∈ s.toList := by
  rw [trim, String.toList_ofList, trimEnd, trimStart, List.mem_reverse, mem_dropWhile_isWhite seen,
    List.mem_reverse, mem_dropWhile_isWhite seen]

theorem blank_eq_false_iff {s : String} : blank s = false ↔ ∃ c ∈ s.toList, isWhite c = false := by
  simp [blank]

theorem blank_trim {s : String} (seen : blank s = false) : blank (trim s) = false := by
  obtain ⟨c, inside, visible⟩ := blank_eq_false_iff.1 seen
  exact blank_eq_false_iff.2 ⟨c, (mem_trim visible s).2 inside, visible⟩

end TopicGateway.Text
