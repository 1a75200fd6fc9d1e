import TopicGateway.Json.Reader
import TopicGateway.Proofs.Number.Spelling

/-! What a number is read as by the parts of its text. Nothing after it is consumed, as long as what
follows cannot be taken for more of it. -/
namespace TopicGateway.Json

open Text (asciiByte)

def EndsDigits (tail : List UInt8) : Prop :=
  ∀ b ∈ tail.head?, isDigit b = false

/-- What follows does not go on with a number. -/
def EndsNumber (tail : List UInt8) : Prop :=
  ∀ b ∈ tail.head?, isDigit b = false ∧ b ≠ 0x2e ∧ b ≠ 0x65 ∧ b ≠ 0x45

theorem EndsNumber.endsDigits {tail : List UInt8} (ends : EndsNumber tail) : EndsDigits tail :=
  fun b first => (ends b first).1

theorem EndsNumber.nil : EndsNumber [] :=
  fun _ none => nomatch none

theorem EndsNumber.cons {b : UInt8}
    (mark : isDigit b = false ∧ b ≠ 0x2e ∧ b ≠ 0x65 ∧ b ≠ 0x45) (rest : List UInt8) :
    EndsNumber (b :: rest) := by
  intro c first
  cases first
  exact mark

theorem EndsDigits.cons {b : UInt8} (other : isDigit b = false) (rest : List UInt8) :
    EndsDigits (b :: rest) := by
  intro c first
  cases first
  exact other

theorem takeWhile_digits {ds tail : List UInt8} (digits : ∀ b ∈ ds, isDigit b = true)
    (ends : EndsDigits tail) : (ds ++ tail).takeWhile isDigit = ds := by
  rw [List.takeWhile_append_of_pos digits]
  cases tail with
  | nil => simp
  | cons b rest => simp [ends b rfl]

theorem dropWhile_digits {ds tail : List UInt8} (digits : ∀ b ∈ ds, isDigit b = true)
    (ends : EndsDigits tail) : (ds ++ tail).dropWhile isDigit = tail := by
  rw [List.dropWhile_append_of_pos digits]
  cases tail with
  | nil => rfl
  | cons b rest => simp [ends b rfl]

theorem isDigit_map {cs : List Char} (digits : ∀ c ∈ cs, c.isDigit = true) :
    ∀ b ∈ cs.map asciiByte, isDigit b = true := by
  intro b member
  obtain ⟨c, inside, rfl⟩ := List.mem_map.1 member
  exact isDigit_asciiByte (digits c inside)

theorem wholeDigits_append {cs : List Char} {tail : List UInt8} (whole : Whole cs)
    (ends : EndsDigits tail) :
    wholeDigits (cs.map asciiByte ++ tail) = .ok (cs.map asciiByte, tail) := by
  obtain ⟨c, rest, rfl⟩ := List.exists_cons_of_ne_nil whole.nonempty
  have first : isDigit (asciiByte c) = true :=
    isDigit_asciiByte (whole.digits c (List.mem_cons_self ..))
  have others := isDigit_map fun d member => whole.digits d (List.mem_cons_of_mem c member)
  by_cases zero : asciiByte c = 0x30
  · have char : c = '0' := by
      have code := Text.asciiByte_toNat (Text.ascii_of_isDigit
        (whole.digits c (List.mem_cons_self ..)))
      rw [zero] at code
      exact Char.ext (UInt32.toNat_inj.1 code.symm)
    have alone : rest = [] := (List.cons.inj (whole.zero_alone (by rw [char]; rfl))).2
    subst alone
    cases tail with
    | nil => simp [wholeDigits, zero]
    | cons b rest => simp [wholeDigits, zero, ends b rfl]
  · simp only [List.map_cons, List.cons_append, wholeDigits, if_neg zero, first, if_true,
      takeWhile_digits others ends, dropWhile_digits others ends]

theorem fractionDigits_append {cs : List Char} {tail : List UInt8}
    (digits : ∀ c ∈ cs, c.isDigit = true) (nonempty : cs ≠ []) (ends : EndsDigits tail) :
    fractionDigits (cs.map asciiByte ++ tail) = .ok (cs.map asciiByte, tail) := by
  have taken := takeWhile_digits (isDigit_map digits) ends
  have dropped := dropWhile_digits (isDigit_map digits) ends
  obtain ⟨c, rest, rfl⟩ := List.exists_cons_of_ne_nil nonempty
  have first : isDigit (asciiByte c) = true := isDigit_asciiByte (digits c (List.mem_cons_self ..))
  simp only [List.map_cons, List.cons_append] at taken dropped ⊢
  simp [fractionDigits, first, taken, dropped]

theorem le_digitsFrom (n : Nat) (ds : List UInt8) : n ≤ digitsFrom n ds := by
  induction ds generalizing n with
  | nil => exact Nat.le_refl n
  | cons d ds ih =>
    have step : n ≤ n * 10 + (d.toNat - 0x30) := by omega
    exact Nat.le_trans step (ih _)

/-- Digits of an exponent are added up unless they are checked and go beyond the limit. -/
theorem exponentValue_append {checked : Bool} {ds tail : List UInt8} (n : Nat)
    (digits : ∀ b ∈ ds, isDigit b = true) (ends : EndsDigits tail)
    (inside : checked = true → digitsFrom n ds ≤ exponentLimit) :
    exponentValue checked n (ds ++ tail) = .ok (digitsFrom n ds, tail) := by
  induction ds generalizing n with
  | nil =>
    cases tail with
    | nil => rfl
    | cons b rest => simp [exponentValue, ends b rfl, digitsFrom]
  | cons d ds ih =>
    have digit := digits d (List.mem_cons_self ..)
    have bound : (checked && decide (exponentLimit < n * 10 + (d.toNat - 0x30))) = false := by
      cases checked with
      | false => rfl
      | true =>
        have within := Nat.le_trans (le_digitsFrom _ ds) (inside rfl)
        exact decide_eq_false (Nat.not_lt.2 within)
    have rest := ih (n * 10 + (d.toNat - 0x30))
      (fun b member => digits b (List.mem_cons_of_mem d member)) inside
    rw [List.cons_append, exponentValue]
    simp only [digit, if_true, bound, Bool.false_eq_true, if_false]
    exact rest

def exponentBytes (e : Int) : List UInt8 :=
  (if e < 0 then 0x2d else 0x2b) :: (Decimal.digitsOf e.natAbs).map asciiByte

theorem exponent_append {zero : Bool} {tail : List UInt8} (e : Int) (ends : EndsDigits tail)
    (inside : e ≤ exponentLimit) : exponent zero (exponentBytes e ++ tail) = .ok (e, tail) := by
  have chars := Decimal.isDigit_digitsOf e.natAbs
  have value : digitsFrom 0 ((Decimal.digitsOf e.natAbs).map asciiByte) = e.natAbs := by
    rw [digitsFrom_map chars]
    exact Decimal.ofDigitChars_digitsOf _
  have read : ∀ checked, (checked = true → 0 ≤ e) → exponentValue checked 0
      ((Decimal.digitsOf e.natAbs).map asciiByte ++ tail) = .ok (e.natAbs, tail) := by
    intro checked sign
    rw [exponentValue_append 0 (isDigit_map chars) ends ?_, value]
    intro on
    have := sign on
    rw [value]
    omega
  obtain ⟨c, rest, shape⟩ := List.exists_cons_of_ne_nil (Decimal.digitsOf_ne_nil e.natAbs)
  rw [exponentBytes]
  rw [shape] at chars read ⊢
  have first : isDigit (asciiByte c) = true := isDigit_asciiByte (chars c (List.mem_cons_self ..))
  simp only [List.map_cons, List.cons_append] at read ⊢
  by_cases negative : e < 0
  · have back : -(e.natAbs : Int) = e := by omega
    have sign : (if e < 0 then (0x2d : UInt8) else 0x2b) = 0x2d := if_pos negative
    rw [sign]
    simp only [exponent, first, if_true, Bool.not_true, Bool.and_false,
      read false Bool.noConfusion, back]
  · have back : (e.natAbs : Int) = e := by omega
    have sign : (if e < 0 then (0x2d : UInt8) else 0x2b) = 0x2b := if_neg negative
    rw [sign]
    simp only [exponent, first, if_true, read _ (fun _ => Int.not_lt.1 negative),
      Bool.false_eq_true, if_false, back]

theorem digitsValue_map {cs : List Char} (digits : ∀ c ∈ cs, c.isDigit = true) :
    digitsValue (cs.map asciiByte) = Nat.ofDigitChars 10 cs 0 :=
  digitsFrom_map digits 0

variable {whole fraction : List Char} {tail : List UInt8} {d : Decimal}

theorem readNumber_whole (negative : Bool) (lead : Whole whole) (ends : EndsNumber tail) :
    readNumber negative (whole.map asciiByte ++ tail) =
      wholeNumber negative (whole.map asciiByte) tail := by
  rw [readNumber, wholeDigits_append lead ends.endsDigits]
  cases tail with
  | nil => rfl
  | cons b rest =>
    obtain ⟨_, _, lower, upper⟩ := ends b rfl
    have tailed : numberTail negative (whole.map asciiByte) (b :: rest) =
        wholeNumber negative (whole.map asciiByte) (b :: rest) := by
      simp [numberTail, lower, upper]
    exact tailed

theorem readNumber_plain (negative : Bool) (lead : Whole whole)
    (digits : ∀ c ∈ fraction, c.isDigit = true) (nonempty : fraction ≠ []) (ends : EndsNumber tail) :
    readNumber negative ((whole ++ '.' :: fraction).map asciiByte ++ tail) =
      realNumber negative (whole.map asciiByte) (fraction.map asciiByte) 0 tail := by
  have shape : (whole ++ '.' :: fraction).map asciiByte ++ tail =
      whole.map asciiByte ++ 0x2e :: (fraction.map asciiByte ++ tail) := by
    simp only [List.map_append, List.map_cons, List.append_assoc, List.cons_append]
    rfl
  rw [shape, readNumber, wholeDigits_append lead (.cons rfl _)]
  simp only [numberTail, fractionDigits_append digits nonempty ends.endsDigits]
  cases tail with
  | nil => rfl
  | cons b rest =>
    obtain ⟨_, _, lower, upper⟩ := ends b rfl
    simp only [lower, upper, or_self, if_false]

theorem readNumber_scientific (negative : Bool) (lead : Whole whole) (e : Int)
    (inside : e ≤ exponentLimit) (ends : EndsNumber tail) :
    readNumber negative (whole.map asciiByte ++ 0x65 :: (exponentBytes e ++ tail)) =
      realNumber negative (whole.map asciiByte) [] e tail := by
  rw [readNumber, wholeDigits_append lead (.cons rfl _)]
  simp [numberTail, exponent_append e ends.endsDigits inside]

theorem readNumber_scientific_fraction (negative : Bool) (lead : Whole whole)
    (digits : ∀ c ∈ fraction, c.isDigit = true) (nonempty : fraction ≠ []) (e : Int)
    (inside : e ≤ exponentLimit) (ends : EndsNumber tail) :
    readNumber negative
        ((whole ++ '.' :: fraction).map asciiByte ++ 0x65 :: (exponentBytes e ++ tail)) =
      realNumber negative (whole.map asciiByte) (fraction.map asciiByte) e tail := by
  have shape : (whole ++ '.' :: fraction).map asciiByte ++ 0x65 :: (exponentBytes e ++ tail) =
      whole.map asciiByte ++
        0x2e :: (fraction.map asciiByte ++ 0x65 :: (exponentBytes e ++ tail)) := by
    simp only [List.map_append, List.map_cons, List.append_assoc, List.cons_append]
    rfl
  have letter : EndsDigits (0x65 :: (exponentBytes e ++ tail)) := .cons rfl _
  rw [shape, readNumber, wholeDigits_append lead (.cons rfl _)]
  simp only [numberTail, fractionDigits_append digits nonempty letter, true_or, if_true,
    exponent_append e ends.endsDigits inside]

theorem ascii_of_gives {s : Spelling} (gives : s.Gives d) : ∀ c ∈ s.chars, c.toNat < 128 := by
  intro c member
  rcases gives.of_mem member with digit | rfl | rfl | rfl | rfl
  · exact Text.ascii_of_isDigit digit
  all_goals decide

theorem map_exponentChars (e : Int) :
    (Spelling.exponentChars (some e)).map asciiByte = 0x65 :: exponentBytes e := by
  rw [exponentBytes, Spelling.exponentChars, List.map_cons, List.map_cons]
  split <;> rfl

/-- What is spelled is read with its parts. -/
theorem readNumber_spelling (negative : Bool) {s : Spelling} (gives : s.Gives d)
    (ends : EndsNumber tail) : readNumber negative (s.chars.map asciiByte ++ tail) =
      realNumber negative (s.whole.map asciiByte) (s.fraction.map asciiByte) (s.exponent.getD 0)
        tail := by
  obtain ⟨whole, fraction, exponent⟩ := s
  have lead : Whole whole := gives.whole
  have limit (e : Int) (written : exponent = some e) : e ≤ exponentLimit := by
    have below := gives.inside e written
    simp only [exponentLimit]
    omega
  by_cases point : fraction = []
  · subst point
    cases exponent with
    | none => exact (gives.marked.elim (· rfl) (· rfl)).elim
    | some e =>
      have shape : (Spelling.chars ⟨whole, [], some e⟩).map asciiByte ++ tail =
          whole.map asciiByte ++ 0x65 :: (exponentBytes e ++ tail) := by
        simp [Spelling.chars, Spelling.pointChars, map_exponentChars]
      rw [shape]
      exact readNumber_scientific negative lead e (limit e rfl) ends
  · cases exponent with
    | none =>
      have shape : Spelling.chars ⟨whole, fraction, none⟩ = whole ++ '.' :: fraction := by
        simp [Spelling.chars, Spelling.pointChars, Spelling.exponentChars, point]
      rw [shape]
      exact readNumber_plain negative lead gives.fraction point ends
    | some e =>
      have shape : (Spelling.chars ⟨whole, fraction, some e⟩).map asciiByte ++ tail =
          (whole ++ '.' :: fraction).map asciiByte ++ 0x65 :: (exponentBytes e ++ tail) := by
        simp [Spelling.chars, Spelling.pointChars, point, map_exponentChars]
      rw [shape]
      exact readNumber_scientific_fraction negative lead gives.fraction point e (limit e rfl) ends

/-- What an integer is held as where it stands in plain decimal form, if it is held at all. -/
def Number.ofInt? (n : Int) : Option Number :=
  if fits : -2 ^ 63 ≤ n ∧ n < 2 ^ 64 then some (.integer n fits)
  else (magnitude? ((Decimal.digitsOf n.natAbs).map asciiByte) [] 0).map fun m =>
    .real ⟨decide (n < 0), m⟩

theorem wholeNumber_digitsOf (z : Int) (tail : List UInt8) :
    wholeNumber (decide (z < 0)) ((Decimal.digitsOf z.natAbs).map asciiByte) tail =
      match Number.ofInt? z with
      | some read => .ok (read, tail)
      | none => fail .numberRange tail := by
  have value : digitsValue ((Decimal.digitsOf z.natAbs).map asciiByte) = z.natAbs :=
    (digitsValue_map (Decimal.isDigit_digitsOf _)).trans (Decimal.ofDigitChars_digitsOf _)
  have noZero : (decide (z < 0) && z.natAbs == 0) = false := by
    rcases Int.lt_or_le z 0 with negative | nonnegative
    · have : z.natAbs ≠ 0 := by omega
      simp [this]
    · simp [Int.not_lt.2 nonnegative]
  have whole : signed (decide (z < 0)) z.natAbs = z := by
    simp only [signed, decide_eq_true_eq]
    omega
  simp only [wholeNumber, value, noZero, Bool.false_eq_true, if_false, whole, Number.ofInt?]
  split
  · rfl
  · rw [realNumber]
    cases magnitude? ((Decimal.digitsOf z.natAbs).map asciiByte) [] 0 <;> rfl

theorem readNumber_digitsOf (z : Int) (ends : EndsNumber tail) :
    readNumber (decide (z < 0)) ((Decimal.digitsOf z.natAbs).map asciiByte ++ tail) =
      match Number.ofInt? z with
      | some read => .ok (read, tail)
      | none => fail .numberRange tail := by
  rw [readNumber_whole _ (whole_digitsOf _) ends, wholeNumber_digitsOf]

theorem ofInt?_of_fits {z : Int} (fits : -2 ^ 63 ≤ z ∧ z < 2 ^ 64) :
    Number.ofInt? z = some (.integer z fits) :=
  dif_pos fits

theorem ascii_signed (negative : Bool) {cs : List Char} (small : ∀ c ∈ cs, c.toNat < 128) :
    ascii (String.ofList (Spelling.signChars negative ++ cs)) =
      (if negative = true then [0x2d] else []) ++ cs.map asciiByte := by
  have sign : ∀ c ∈ Spelling.signChars negative, c.toNat < 128 := by
    cases negative <;> simp [Spelling.signChars]
  rw [ascii, Text.Utf8.encode_ofList (List.forall_mem_append.2 ⟨sign, small⟩), List.map_append]
  cases negative <;> rfl

theorem ascii_toString (z : Int) : ascii (toString z) =
    (if z < 0 then [0x2d] else []) ++ (Decimal.digitsOf z.natAbs).map asciiByte := by
  rw [Decimal.toString_eq, ascii_signed _ fun c member =>
    Text.ascii_of_isDigit (Decimal.isDigit_digitsOf _ c member)]
  simp only [decide_eq_true_eq]

theorem isDigit_of_readNumber {negative : Bool} {b : UInt8} {rest : List UInt8} {number : Number}
    (read : readNumber negative (b :: rest) = .ok (number, tail)) : isDigit b = true := by
  apply Classical.byContradiction
  intro other
  have zero : b ≠ 0x30 := by
    rintro rfl
    exact other rfl
  simp [readNumber, wholeDigits, zero, other, fail] at read

theorem scalar_digit {b : UInt8} (digit : isDigit b = true) (rest : List UInt8) :
    scalar b rest = (readNumber false (b :: rest)).map fun (n, rest) => (.number n, rest) := by
  have other : b ≠ 0x6e ∧ b ≠ 0x74 ∧ b ≠ 0x66 ∧ b ≠ 0x22 ∧ b ≠ 0x2d := by
    refine ⟨?_, ?_, ?_, ?_, ?_⟩
    all_goals
      rintro rfl
      exact absurd digit (by decide)
  simp [scalar, other, digit]

end TopicGateway.Json
