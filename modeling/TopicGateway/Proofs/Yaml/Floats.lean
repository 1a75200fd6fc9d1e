import TopicGateway.Proofs.Number.Spelling
import TopicGateway.Yaml.Value

/-! The text of a finite double, a negative zero included, is a float to the reader of YAML scalars, and
that very double. -/
namespace TopicGateway

open Decimal (digitsOf)
open Spelling (signChars)

namespace Yaml

theorem hexDigit?_of_digit {c : Char} (digit : c.isDigit = true) :
    ∃ d, Text.hexDigit? c = some d ∧ d.val = c.toNat - '0'.toNat ∧ d.val < 10 := by
  obtain ⟨low, high⟩ := Text.isDigit_bounds digit
  have zero : '0'.toNat = 48 := rfl
  refine ⟨⟨c.toNat - 0x30, by omega⟩, ?_, rfl, ?_⟩
  · have first : ¬c.toNat < 0x30 := by omega
    have second : c.toNat < 0x3a := by omega
    simp only [Text.hexDigit?, if_neg first, dif_pos second]
  · simp only
    omega

/-- Decimal digits make the number that they are worth. -/
theorem digitsValue?_digits {cs : List Char} (digits : ∀ c ∈ cs, c.isDigit = true)
    (nonempty : cs ≠ []) : digitsValue? 10 cs = some (Nat.ofDigitChars 10 cs 0) := by
  have fold (n : Nat) : cs.foldl (fun n c => n.bind fun n =>
      (Text.hexDigit? c).bind fun d => if d.val < 10 then some (10 * n + d.val) else none)
      (some n) = some (Nat.ofDigitChars 10 cs n) := by
    clear nonempty
    induction cs generalizing n with
    | nil => rfl
    | cons c cs ih =>
      obtain ⟨first, later⟩ := List.forall_mem_cons.1 digits
      obtain ⟨d, known, value, small⟩ := hexDigit?_of_digit first
      rw [Nat.ofDigitChars_cons, List.foldl_cons, ← value, ← ih later]
      simp only [known, Option.bind_some, if_pos small]
  rw [digitsValue?, if_neg (by simpa using nonempty), fold]

theorem decimalExponent?_exponentChars (e : Option Int) :
    decimalExponent? (Spelling.exponentChars e) = some (e.getD 0) := by
  cases e with
  | none => rfl
  | some e =>
    have value : digitsValue? 10 (digitsOf e.natAbs) = some e.natAbs := by
      rw [digitsValue?_digits (Decimal.isDigit_digitsOf _) (Decimal.digitsOf_ne_nil _),
        Decimal.ofDigitChars_digitsOf]
    rw [Spelling.exponentChars, Option.getD_some]
    rcases Int.lt_or_le e 0 with negative | nonnegative
    · have back : -(e.natAbs : Int) = e := by omega
      rw [if_pos negative]
      simp only [decimalExponent?, value, true_or, if_true]
      exact congrArg some back
    · have back : (e.natAbs : Int) = e := by omega
      rw [if_neg (Int.not_lt.2 nonnegative)]
      simp only [decimalExponent?, dropPlus, true_or, if_true]
      rw [value]
      exact congrArg some back

theorem head?_exponentChars (e : Option Int) :
    ∀ c ∈ (Spelling.exponentChars e).head?, c.isDigit = false := by
  cases e with
  | none => nofun
  | some e =>
    rintro _ ⟨rfl⟩
    decide

/-- Digits are taken up to where none follows. -/
theorem span_digits {ds tail : List Char} (digits : ∀ c ∈ ds, c.isDigit = true)
    (ends : ∀ c ∈ tail.head?, c.isDigit = false) :
    (ds ++ tail).takeWhile Char.isDigit = ds ∧ (ds ++ tail).dropWhile Char.isDigit = tail := by
  rw [List.takeWhile_append_of_pos digits, List.dropWhile_append_of_pos digits]
  cases tail with
  | nil => simp
  | cons c tail => simp [ends c rfl]

variable {s : Spelling} {d : TopicGateway.Decimal}

/-- The first character of a spelled number is a digit. -/
theorem exists_digit (gives : s.Gives d) : ∃ c rest, s.chars = c :: rest ∧ c.isDigit = true := by
  obtain ⟨c, rest, shape⟩ := List.exists_cons_of_ne_nil gives.whole.nonempty
  refine ⟨c, rest ++ (Spelling.pointChars s.fraction ++ Spelling.exponentChars s.exponent), ?_, ?_⟩
  · rw [Spelling.chars, shape, List.cons_append]
  · exact gives.whole.digits c (shape ▸ List.mem_cons_self ..)

theorem chars_ne_minus (gives : s.Gives d) (cs : List Char) : s.chars ≠ '-' :: cs := by
  obtain ⟨c, rest, shape, digit⟩ := exists_digit gives
  rw [shape]
  rintro ⟨⟩
  exact absurd digit (by decide)

theorem decimal?_unsigned (gives : s.Gives d) :
    decimal? s.chars = some ⟨false, Nat.ofDigitChars 10 (s.whole ++ s.fraction) 0,
      s.exponent.getD 0 - s.fraction.length⟩ := by
  have value := digitsValue?_digits (gives.whole.digits_append gives.fraction)
    (List.append_ne_nil_of_left_ne_nil gives.whole.nonempty _)
  have exponent := decimalExponent?_exponentChars s.exponent
  have ends := head?_exponentChars s.exponent
  rw [decimal?]
  · by_cases point : s.fraction = []
    · have shape : s.chars = s.whole ++ Spelling.exponentChars s.exponent := by
        simp [Spelling.chars, Spelling.pointChars, point]
      obtain ⟨taken, dropped⟩ := span_digits gives.whole.digits ends
      rw [point] at value ⊢
      rw [shape, taken, dropped]
      rw [List.append_nil] at value ⊢
      -- Where no point stands there is no fraction, with an exponent or without.
      cases written : s.exponent with
      | none => simp [Spelling.exponentChars, decimalExponent?, value]
      | some e =>
        rw [written, Spelling.exponentChars] at exponent
        simp [Spelling.exponentChars, value, exponent]
    · have shape : s.chars = s.whole ++ '.' :: (s.fraction ++ Spelling.exponentChars s.exponent) := by
        simp [Spelling.chars, Spelling.pointChars, point]
      have behind : ∀ c ∈ ('.' :: (s.fraction ++ Spelling.exponentChars s.exponent)).head?,
          c.isDigit = false := by
        rintro _ ⟨rfl⟩
        decide
      obtain ⟨taken, dropped⟩ := span_digits gives.whole.digits behind
      obtain ⟨taken', dropped'⟩ := span_digits gives.fraction ends
      rw [shape, taken, dropped]
      simp only [taken', dropped', value, exponent]
  · exact fun cs same => chars_ne_minus gives cs same

theorem decimal?_minus {cs : List Char} (unsigned : ∀ ds, cs ≠ '-' :: ds) :
    decimal? ('-' :: cs) = (decimal? cs).map fun d => { d with negative := true } := by
  rw [decimal?, decimal?]
  · split
    split <;> rfl
  · exact unsigned

/-- A spelled number with its sign is a decimal with what is spelled. -/
theorem decimal?_chars (gives : s.Gives d) (negative : Bool) :
    decimal? (signChars negative ++ s.chars) =
      some ⟨negative, Nat.ofDigitChars 10 (s.whole ++ s.fraction) 0,
        s.exponent.getD 0 - s.fraction.length⟩ := by
  cases negative with
  | true =>
    have signed := decimal?_minus (chars_ne_minus gives)
    rw [decimal?_unsigned gives] at signed
    exact signed
  | false => exact decimal?_unsigned gives

/-- No name of a float begins as a spelled number does. -/
theorem ne_name (gives : s.Gives d) (negative : Bool) {name : String} {rest : List Char}
    (point : name.toList = '.' :: rest ∨ name.toList = '-' :: '.' :: rest) :
    String.ofList (signChars negative ++ s.chars) ≠ name := by
  obtain ⟨c, others, shape, digit⟩ := exists_digit gives
  have other (d : Char) (mark : d.isDigit = false) : c ≠ d := by
    rintro rfl
    rw [mark] at digit
    cases digit
  rintro rfl
  rw [String.toList_ofList, shape] at point
  cases negative with
  | true => rcases point with same | same <;> simp [signChars, other '.' (by decide)] at same
  | false =>
    rcases point with same | same <;>
      simp [signChars, other '.' (by decide), other '-' (by decide)] at same

/-- The text of a double is read as that double. -/
theorem float?_text (r : Real64) : float? r.text.toList = some (.finite r) := by
  obtain ⟨s, text, gives⟩ := r.exists_spelling
  have shape : r.text.toList = signChars r.negative ++ s.chars := by
    rw [text, String.toList_ofList]
  obtain ⟨c, rest, first, digit⟩ := exists_digit gives
  have noPlus : ∀ cs, signChars r.negative ++ s.chars ≠ '+' :: cs := by
    rw [first]
    cases r.negative with
    | true => nofun
    | false =>
      rintro _ ⟨⟩
      exact absurd digit (by decide)
  have signless : dropPlus (signChars r.negative ++ s.chars) = signChars r.negative ++ s.chars := by
    rw [dropPlus]
    exact noPlus
  have unsigned : startsWith (· = '+') (signChars r.negative ++ s.chars) = false := by
    cases chars : signChars r.negative ++ s.chars with
    | nil => rfl
    | cons a cs =>
      refine decide_eq_false fun plus => noPlus cs ?_
      rw [chars, plus]
  have decimal := decimal?_chars gives r.negative
  have named (name : String) (rest : List Char)
      (point : name.toList = '.' :: rest ∨ name.toList = '-' :: '.' :: rest) :=
    ne_name gives r.negative point
  rw [shape, float?, signless, unsigned, Bool.false_and, if_neg Bool.false_ne_true]
  simp only [named ".inf" _ (.inl rfl), named ".Inf" _ (.inl rfl), named ".INF" _ (.inl rfl),
    named "-.inf" _ (.inr rfl), named "-.Inf" _ (.inr rfl), named "-.INF" _ (.inr rfl),
    named ".nan" _ (.inl rfl), named ".NaN" _ (.inl rfl), named ".NAN" _ (.inl rfl), or_self, if_false,
    decimal, Option.bind_some, Real64.ofDecimal?, gives.nearest, Magnitude.ofDecimal?_shortest, Option.map_some]

end Yaml

end TopicGateway
