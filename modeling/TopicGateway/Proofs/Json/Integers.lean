import Mathlib.Data.List.Induction
import TopicGateway.Proofs.Json.Grammar
import TopicGateway.Proofs.Json.Rereading

/-! Whole numbers in plain decimal form. From -2^63 up to below 2^64 they are read as the integers that
they are, wherever they stand, and nothing else is read as such an integer; any other is read as a
double. -/
namespace TopicGateway

open Text (asciiByte)

namespace Decimal

theorem digitChar_sub {c : Char} (digit : c.isDigit = true) : Nat.digitChar (c.toNat - 48) = c := by
  obtain ⟨low, high⟩ := Text.isDigit_bounds digit
  apply Char.toNat_inj.1
  rw [Nat.toNat_digitChar_of_lt_ten (by omega)]
  omega

/-- Digits without a zero in front are those of the number they are worth. -/
theorem digitsOf_ofDigitChars {cs : List Char} (whole : Json.Whole cs) :
    digitsOf (Nat.ofDigitChars 10 cs 0) = cs := by
  induction cs using List.reverseRecOn with
  | nil => exact absurd rfl whole.nonempty
  | append_singleton cs c ih =>
    have digit : c.isDigit = true := whole.digits c (by simp)
    obtain ⟨low, high⟩ := Text.isDigit_bounds digit
    have zero : '0'.toNat = 48 := rfl
    have worth : c.toNat - '0'.toNat < 10 := by omega
    rw [Nat.ofDigitChars_append, Nat.ofDigitChars_cons, Nat.ofDigitChars_nil]
    cases cs with
    | nil =>
      rw [Nat.ofDigitChars_nil, Nat.mul_zero, Nat.zero_add, digitsOf, Nat.toDigits_of_lt_base worth]
      exact congrArg (fun d => [d]) (digitChar_sub digit)
    | cons d ds =>
      have leading : d ≠ '0' := by
        rintro rfl
        have alone := whole.zero_alone rfl
        simp at alone
      have front := ih ⟨fun b member => whole.digits b (List.mem_append_left _ member),
        List.cons_ne_nil d ds, fun first => absurd (Option.some.inj first) leading⟩
      have positive : Nat.ofDigitChars 10 (d :: ds) 0 ≠ 0 := by
        intro none
        rw [none] at front
        exact leading (List.cons.inj (front.symm.trans (Nat.toDigits_zero 10))).1
      have last : (10 * Nat.ofDigitChars 10 (d :: ds) 0 + (c.toNat - '0'.toNat)) % 10 =
          c.toNat - 48 := by omega
      have others : (10 * Nat.ofDigitChars 10 (d :: ds) 0 + (c.toNat - '0'.toNat)) / 10 =
          Nat.ofDigitChars 10 (d :: ds) 0 := by omega
      rw [digitsOf, Nat.toDigits_of_base_le (by decide) (by omega), last, others, digitChar_sub digit]
      exact congrArg (· ++ [c]) front

end Decimal

namespace Json

/-- The number starts the input, behind blanks, in plain decimal form, and ends in front of the
rest. -/
def Plain (n : Int) (input rest : List UInt8) : Prop :=
  skipBlank input = ascii (toString n) ++ rest ∧ EndsNumber rest

variable {input rest tail : List UInt8} {n : Int}

/-- The text of an integer is the scalar that its sign and its digits are read as. -/
theorem scalar_toString (n : Int) (tail : List UInt8) :
    ∃ b behind, ascii (toString n) ++ tail = b :: behind ∧ (b = 0x2d ∨ isDigit b = true) ∧
      scalar b behind =
        (readNumber (decide (n < 0)) ((Decimal.digitsOf n.natAbs).map asciiByte ++ tail)).map
          fun (n, rest) => (.number n, rest) := by
  rw [ascii_toString]
  by_cases negative : n < 0
  · rw [if_pos negative, decide_eq_true negative]
    exact ⟨0x2d, _, rfl, .inl rfl, rfl⟩
  · rw [if_neg negative, decide_eq_false negative]
    have digits := isDigit_map (Decimal.isDigit_digitsOf n.natAbs)
    obtain ⟨b, behind, shape⟩ := List.exists_cons_of_ne_nil
      (mt List.map_eq_nil_iff.1 (Decimal.digitsOf_ne_nil n.natAbs) :
        (Decimal.digitsOf n.natAbs).map asciiByte ≠ [])
    rw [shape] at digits ⊢
    have digit := digits b (List.mem_cons_self ..)
    exact ⟨b, behind ++ tail, rfl, .inr digit, scalar_digit digit _⟩

/-- A whole number in plain form is read as the number that stands for it, if there is one, and as
nothing else. -/
theorem Plain.reads_iff {depth : Nat} {j : Json} (plain : Plain n input tail) :
    Reads depth input (.value j) rest ↔
      rest = tail ∧ ∃ number, Number.ofInt? n = some number ∧ j = .number number := by
  obtain ⟨b, behind, text, mark, spelt⟩ := scalar_toString n tail
  have first := plain.1.trans text
  rw [readNumber_digitsOf n plain.2] at spelt
  constructor
  · have noBracket {c : UInt8} {inner : List UInt8} (bracket : skipBlank input = c :: inner)
        (other : c ≠ 0x2d ∧ isDigit c = false) : False := by
      obtain ⟨rfl, _⟩ := List.cons.inj (first.symm.trans bracket)
      exact mark.elim other.1 fun digit => Bool.noConfusion (digit.symm.trans other.2)
    intro reads
    cases reads with
    | scalar start read =>
      obtain ⟨rfl, rfl⟩ := List.cons.inj (first.symm.trans start)
      obtain ⟨number, answer, rfl⟩ := eq_of_map (spelt.symm.trans read)
      split at answer
      · next found =>
        obtain ⟨rfl, rfl⟩ := Prod.mk.inj (Except.ok.inj answer)
        exact ⟨rfl, _, found, rfl⟩
      · cases answer
    | noItems bracket => exact (noBracket bracket (by decide)).elim
    | list bracket => exact (noBracket bracket (by decide)).elim
    | noMembers bracket => exact (noBracket bracket (by decide)).elim
    | object bracket => exact (noBracket bracket (by decide)).elim
  · rintro ⟨rfl, number, found, rfl⟩
    rw [found] at spelt
    exact .scalar first spelt

def digitOf (b : UInt8) : Char :=
  Char.ofUInt8 b

theorem asciiByte_digitOf (b : UInt8) : asciiByte (digitOf b) = b :=
  UInt8.toUInt8_toUInt32 b

theorem isDigit_digitOf {b : UInt8} (digit : isDigit b = true) : (digitOf b).isDigit = true := by
  have code : (digitOf b).val.toNat = b.toNat := UInt8.toNat_toUInt32 b
  simpa [Char.isDigit, UInt32.le_iff_toNat_le, code] using isDigit_iff.1 digit

theorem map_digitOf (ds : List UInt8) : (ds.map digitOf).map asciiByte = ds := by
  rw [List.map_map]
  simp [Function.comp_def, asciiByte_digitOf]

theorem endsDigits_dropWhile (ds : List UInt8) : EndsDigits (ds.dropWhile isDigit) := by
  intro b first
  have other := List.head?_dropWhile_not isDigit ds
  rw [Option.mem_def.1 first] at other
  simpa using other

/-- What is read as the digits before a point. -/
theorem wholeDigits_eq_ok {digits : List UInt8} (read : wholeDigits input = .ok (digits, rest)) :
    ∃ cs, Whole cs ∧ digits = cs.map asciiByte ∧ input = digits ++ rest ∧ EndsDigits rest := by
  unfold wholeDigits at read
  split at read
  · cases read
  next b behind =>
  split at read
  · next zero =>
    subst zero
    split at read
    · split at read
      · cases read
      · next other =>
        cases read
        exact ⟨['0'], whole_zero, rfl, rfl, .cons (Bool.eq_false_iff.2 other) _⟩
    · cases read
      exact ⟨['0'], whole_zero, rfl, rfl, EndsNumber.nil.endsDigits⟩
  split at read
  · next zero digit =>
    cases read
    refine ⟨(b :: behind.takeWhile isDigit).map digitOf, ?_, (map_digitOf _).symm, ?_,
      endsDigits_dropWhile behind⟩
    · refine .of_head ?_ ?_ (by simp)
      · intro c member
        obtain ⟨d, inside, rfl⟩ := List.mem_map.1 member
        rcases List.mem_cons.1 inside with rfl | inside
        · exact isDigit_digitOf digit
        · exact isDigit_digitOf (List.all_eq_true.1 List.all_takeWhile d inside)
      · intro leading
        have same : digitOf b = '0' := Option.some.inj leading
        have byte := asciiByte_digitOf b
        rw [same] at byte
        exact zero byte.symm
    · rw [List.cons_append, List.takeWhile_append_dropWhile]
  · cases read

theorem realNumber_ne_integer {negative : Bool} {whole fraction : List UInt8} {e : Int}
    {fits : -2 ^ 63 ≤ n ∧ n < 2 ^ 64} :
    realNumber negative whole fraction e input ≠ .ok (.integer n fits, rest) := by
  intro read
  unfold realNumber at read
  split at read <;> cases read

/-- Only digits with neither a point nor an exponent behind them are read as an integer. -/
theorem numberTail_eq_integer {negative : Bool} {whole : List UInt8}
    {fits : -2 ^ 63 ≤ n ∧ n < 2 ^ 64} (ends : EndsDigits input)
    (read : numberTail negative whole input = .ok (.integer n fits, rest)) :
    EndsNumber input ∧ wholeNumber negative whole input = .ok (.integer n fits, rest) := by
  unfold numberTail at read
  split at read
  · split at read
    · cases read
    split at read
    · split at read
      · split at read
        · cases read
        · exact absurd read realNumber_ne_integer
      · exact absurd read realNumber_ne_integer
    · exact absurd read realNumber_ne_integer
  · next b behind other =>
    split at read
    · split at read
      · cases read
      · exact absurd read realNumber_ne_integer
    · next unmarked =>
      obtain ⟨lower, upper⟩ := not_or.1 unmarked
      have point : b ≠ 0x2e := by
        rintro rfl
        exact other rfl
      exact ⟨.cons ⟨ends b rfl, point, lower, upper⟩ behind, read⟩
  · exact ⟨.nil, read⟩

theorem wholeNumber_eq_integer {negative : Bool} {digits : List UInt8}
    {fits : -2 ^ 63 ≤ n ∧ n < 2 ^ 64}
    (read : wholeNumber negative digits input = .ok (.integer n fits, rest)) :
    rest = input ∧ n.natAbs = digitsValue digits ∧ (negative = true ↔ n < 0) := by
  simp only [wholeNumber] at read
  split at read
  · cases read
  next nonzero =>
  split at read
  · cases read
    cases negative with
    | true =>
      have positive : digitsValue digits ≠ 0 := by simpa using nonzero
      have value : signed true (digitsValue digits) = -(digitsValue digits : Int) := rfl
      exact ⟨rfl, by omega, by simp only [true_iff]; omega⟩
    | false =>
      have value : signed false (digitsValue digits) = digitsValue digits := rfl
      exact ⟨rfl, by omega, by simp only [Bool.false_eq_true, false_iff]; omega⟩
  · exact absurd read realNumber_ne_integer

theorem readNumber_eq_integer {negative : Bool} {fits : -2 ^ 63 ≤ n ∧ n < 2 ^ 64}
    (read : readNumber negative input = .ok (.integer n fits, rest)) :
    input = (Decimal.digitsOf n.natAbs).map asciiByte ++ rest ∧ EndsNumber rest ∧
      (negative = true ↔ n < 0) := by
  unfold readNumber at read
  split at read
  · cases read
  next digits behind whole =>
  obtain ⟨cs, lead, rfl, rfl, ends⟩ := wholeDigits_eq_ok whole
  obtain ⟨ends, number⟩ := numberTail_eq_integer ends read
  obtain ⟨rfl, worth, sign⟩ := wholeNumber_eq_integer number
  rw [digitsValue_map lead.digits] at worth
  rw [worth, Decimal.digitsOf_ofDigitChars lead]
  exact ⟨rfl, ends, sign⟩

theorem Reads.plain {depth : Nat} {fits : -2 ^ 63 ≤ n ∧ n < 2 ^ 64}
    (reads : Reads depth input (.value (.number (.integer n fits))) rest) : Plain n input rest := by
  cases reads with
  | scalar first read =>
    cases spelt_of_scalar read with
    | negative number =>
      obtain ⟨rfl, ends, sign⟩ := readNumber_eq_integer number
      refine ⟨?_, ends⟩
      rw [first, ascii_toString, if_pos (sign.1 rfl)]
      rfl
    | unsigned digit number =>
      obtain ⟨written, ends, sign⟩ := readNumber_eq_integer number
      have nonnegative : ¬n < 0 := fun negative => nomatch sign.2 negative
      refine ⟨?_, ends⟩
      rw [first, ascii_toString, if_neg nonnegative, written]
      rfl

/-- An integer is read where it stands in plain decimal form, and only there. -/
theorem reads_integer_iff {depth : Nat} (fits : -2 ^ 63 ≤ n ∧ n < 2 ^ 64) :
    Reads depth input (.value (.number (.integer n fits))) rest ↔ Plain n input rest :=
  ⟨Reads.plain, fun plain => plain.reads_iff.2 ⟨rfl, _, ofInt?_of_fits fits, rfl⟩⟩

/-- Outside the range a number is held as a double. -/
theorem exists_real_of_outside {number : Number} (outside : ¬(-2 ^ 63 ≤ n ∧ n < 2 ^ 64))
    (held : Number.ofInt? n = some number) : ∃ x, number = .real x := by
  rw [Number.ofInt?, dif_neg outside] at held
  obtain ⟨m, _, rfl⟩ := Option.map_eq_some_iff.1 held
  exact ⟨_, rfl⟩

/-- Whether it is held does not depend on the range: up to a bound far above it every number is. -/
theorem ofInt?_of_outside (outside : ¬(-2 ^ 63 ≤ n ∧ n < 2 ^ 64)) (finite : n.natAbs < 2 ^ 1023) :
    ∃ x, Number.ofInt? n = some (.real x) := by
  have value : digitsFrom 0 ((Decimal.digitsOf n.natAbs).map asciiByte) = n.natAbs :=
    (digitsFrom_map (Decimal.isDigit_digitsOf _) 0).trans (Decimal.ofDigitChars_digitsOf _)
  obtain ⟨m, held⟩ := Option.isSome_iff_exists.1 (magnitude?_isSome value finite)
  exact ⟨⟨decide (n < 0), m⟩, by rw [Number.ofInt?, dif_neg outside, held]; rfl⟩

/-- The text of an integer alone is read as what the integer is held as. -/
theorem read_toString {number : Number} (held : Number.ofInt? n = some number) :
    Json.read (ascii (toString n)) = .ok (.number number) := by
  obtain ⟨b, behind, first, _, spelt⟩ := scalar_toString n []
  rw [readNumber_digitsOf n .nil, held] at spelt
  rw [List.append_nil] at first
  have value : readValue deepest (b :: behind) = .ok (.number number, []) := valueWithin_scalar spelt
  rw [first, Json.read, value]
  rfl

end Json

end TopicGateway
