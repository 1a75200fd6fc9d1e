import TopicGateway.Proofs.Number.Digits
import TopicGateway.Proofs.Number.Shortest

/-! How numbers are spelled. An integer is a sign and digits. A finite double is a sign and digits, then
a point with more digits or an exponent or both. What is spelled stands for a decimal whose nearest
double is the one that was written. -/
namespace TopicGateway

open Decimal (digitsOf)

namespace Json

/-- Digits that may stand before the point: a zero in front stands alone. -/
structure Whole (ds : List Char) : Prop where
  digits : ∀ c ∈ ds, c.isDigit = true
  nonempty : ds ≠ []
  zero_alone : ds.head? = some '0' → ds = ['0']

theorem Whole.digits_append {whole fraction : List Char} (lead : Whole whole)
    (digits : ∀ c ∈ fraction, c.isDigit = true) : ∀ c ∈ whole ++ fraction, c.isDigit = true :=
  List.forall_mem_append.2 ⟨lead.digits, digits⟩

theorem Whole.of_head {cs : List Char} (digits : ∀ c ∈ cs, c.isDigit = true)
    (head : cs.head? ≠ some '0') (nonempty : cs ≠ []) : Whole cs :=
  ⟨digits, nonempty, fun zero => absurd zero head⟩

theorem isDigit_zeros (count : Nat) : ∀ c ∈ List.replicate count '0', c.isDigit = true := by
  intro c member
  rw [List.eq_of_mem_replicate member]
  rfl

theorem whole_zero : Whole ['0'] :=
  ⟨isDigit_zeros 1, List.cons_ne_nil _ _, fun _ => rfl⟩

theorem whole_digitsOf (n : Nat) : Whole (digitsOf n) := by
  by_cases zero : n = 0
  · have digits : digitsOf n = ['0'] := by
      rw [zero]
      exact Nat.toDigits_zero 10
    rw [digits]
    exact whole_zero
  · exact .of_head (Decimal.isDigit_digitsOf n) (Decimal.head?_digitsOf zero)
      (Decimal.digitsOf_ne_nil n)

end Json

open Json (Whole isDigit_zeros whole_zero)

structure Spelling where
  whole : List Char
  /-- The digits behind the point. Without any there is no point. -/
  fraction : List Char
  exponent : Option Int

namespace Spelling

def signChars (negative : Bool) : List Char :=
  if negative then ['-'] else []

def exponentChars : Option Int → List Char
  | none => []
  | some e => 'e' :: (if e < 0 then '-' else '+') :: digitsOf e.natAbs

def pointChars (fraction : List Char) : List Char :=
  if fraction.isEmpty then [] else '.' :: fraction

def chars (s : Spelling) : List Char :=
  s.whole ++ (pointChars s.fraction ++ exponentChars s.exponent)

/-- A decimal is spelled so that no reader takes it for an integer. -/
structure Gives (s : Spelling) (d : Decimal) : Prop where
  whole : Whole s.whole
  short : s.whole.length ≤ 16
  fraction : ∀ c ∈ s.fraction, c.isDigit = true
  marked : s.fraction ≠ [] ∨ s.exponent ≠ none
  inside : ∀ e ∈ s.exponent, e < 400
  /-- Zeros at the end of the digits make up for an exponent that is less. -/
  worth : ∃ zeros ≤ (d.exponent + 1).toNat,
    Nat.ofDigitChars 10 (s.whole ++ s.fraction) 0 = 10 ^ zeros * d.digits ∧
      s.exponent.getD 0 - s.fraction.length = d.exponent - zeros

/-- What is spelled has the magnitude nearest to the decimal. -/
theorem Gives.nearest {s : Spelling} {d : Decimal} (gives : s.Gives d) :
    Magnitude.ofDecimal? (Nat.ofDigitChars 10 (s.whole ++ s.fraction) 0)
      (s.exponent.getD 0 - s.fraction.length) = Magnitude.ofDecimal? d.digits d.exponent := by
  obtain ⟨zeros, _, digits, exponent⟩ := gives.worth
  rw [digits, exponent, Magnitude.ofDecimal?_mul_pow_ten, Int.sub_add_cancel]

/-- A character of a written number. -/
theorem Gives.of_mem {s : Spelling} {d : Decimal} (gives : s.Gives d) {c : Char}
    (member : c ∈ s.chars) : c.isDigit = true ∨ c = '.' ∨ c = 'e' ∨ c = '+' ∨ c = '-' := by
  rcases List.mem_append.1 member with inside | inside
  · exact .inl (gives.whole.digits c inside)
  rcases List.mem_append.1 inside with inside | inside
  · unfold pointChars at inside
    split at inside
    · cases inside
    · rcases List.mem_cons.1 inside with rfl | inside
      · exact .inr (.inl rfl)
      · exact .inl (gives.fraction c inside)
  · cases exponent : s.exponent with
    | none =>
      rw [exponent] at inside
      cases inside
    | some e =>
      rw [exponent] at inside
      rcases List.mem_cons.1 inside with rfl | inside
      · exact .inr (.inr (.inl rfl))
      rcases List.mem_cons.1 inside with sign | inside
      · split at sign
        · exact .inr (.inr (.inr (.inr sign)))
        · exact .inr (.inr (.inr (.inl sign)))
      · exact .inl (Decimal.isDigit_digitsOf _ c inside)

end Spelling

section

variable {whole fraction : List Char} {m : Magnitude} {n : Nat}

/-- Digits on both sides of a point. -/
theorem Spelling.gives_plain {d : Decimal} (lead : Whole whole) (short : whole.length ≤ 16)
    (digits : ∀ c ∈ fraction, c.isDigit = true) (nonempty : fraction ≠ []) {zeros : Nat}
    (few : zeros ≤ (d.exponent + 1).toNat)
    (value : Nat.ofDigitChars 10 (whole ++ fraction) 0 = 10 ^ zeros * d.digits)
    (places : -(fraction.length : Int) = d.exponent - zeros) :
    ∃ s : Spelling, String.ofList (whole ++ '.' :: fraction) = String.ofList s.chars ∧ s.Gives d := by
  refine ⟨⟨whole, fraction, none⟩, ?_,
    ⟨lead, short, digits, .inl nonempty, nofun, zeros, few, value, ?_⟩⟩
  · simp [Spelling.chars, Spelling.pointChars, Spelling.exponentChars, nonempty]
  · rw [Option.getD_none, Int.zero_sub]
    exact places

namespace Decimal

/-- Zeros fill up the digits before the point, and one stands after it. -/
theorem spelling_plain_large (positive : n ≠ 0) {exponent : Nat}
    (limit : exponent + (digitsOf n).length ≤ 16) :
    ∃ s : Spelling, plain (digitsOf n) exponent = String.ofList s.chars ∧ s.Gives ⟨n, exponent⟩ := by
  have whole : Whole (digitsOf n ++ List.replicate exponent '0') := by
    refine .of_head (List.forall_mem_append.2 ⟨isDigit_digitsOf n, isDigit_zeros exponent⟩) ?_
      (by simp [digitsOf_ne_nil])
    have leading := head?_digitsOf positive
    obtain ⟨c, rest, shape⟩ := List.exists_cons_of_ne_nil (digitsOf_ne_nil n)
    rw [shape] at leading ⊢
    exact leading
  have value : Nat.ofDigitChars 10 (digitsOf n ++ List.replicate exponent '0' ++ ['0']) 0 =
      10 ^ (exponent + 1) * n := by
    rw [List.append_assoc, ← List.replicate_succ', Nat.ofDigitChars_append, ofDigitChars_digitsOf,
      Nat.ofDigitChars_replicate_zero]
  rw [plain, if_pos (Int.natCast_nonneg exponent), Int.toNat_natCast]
  refine Spelling.gives_plain whole ?_ (isDigit_zeros 1) (by simp) (Nat.le_refl _) value ?_
  · rw [List.length_append, List.length_replicate, Nat.add_comm]
    exact limit
  · show -((1 : Nat) : Int) = (exponent : Int) - ((exponent + 1 : Nat) : Int)
    omega

/-- Zeros fill up the digits after the point. -/
theorem spelling_plain_small {places : Nat} (positive : 0 < places)
    (short : (digitsOf n).length ≤ places) : ∃ s : Spelling,
    plain (digitsOf n) (-(places : Int)) = String.ofList s.chars ∧ s.Gives ⟨n, -(places : Int)⟩ := by
  have count : (- -(places : Int)).toNat = places := by omega
  have negativeExponent : ¬-(places : Int) ≥ 0 := by omega
  have fraction : ∀ c ∈ List.replicate (places - (digitsOf n).length) '0' ++ digitsOf n,
      c.isDigit = true := List.forall_mem_append.2 ⟨isDigit_zeros _, isDigit_digitsOf n⟩
  have length : (List.replicate (places - (digitsOf n).length) '0' ++ digitsOf n).length =
      places := by
    rw [List.length_append, List.length_replicate]
    omega
  have value : Nat.ofDigitChars 10
      (['0'] ++ (List.replicate (places - (digitsOf n).length) '0' ++ digitsOf n)) 0 =
      10 ^ 0 * n := by
    have zeros : ['0'] = List.replicate 1 '0' := rfl
    rw [zeros, Nat.ofDigitChars_append, Nat.ofDigitChars_append, Nat.ofDigitChars_replicate_zero,
      Nat.ofDigitChars_replicate_zero, Nat.mul_zero, ofDigitChars_digitsOf, Nat.pow_zero, Nat.one_mul]
  simp only [plain]
  rw [if_neg negativeExponent, count, if_pos short, ← List.singleton_append]
  refine Spelling.gives_plain whole_zero (by decide) fraction (by simp [digitsOf_ne_nil])
    (Nat.zero_le _) value ?_
  rw [length]
  exact (Int.sub_zero _).symm

/-- The point falls between the digits. -/
theorem spelling_plain_between (positive : n ≠ 0) {places : Nat} (inside : 0 < places)
    (long : places < (digitsOf n).length) (limit : (digitsOf n).length ≤ 16 + places) :
    ∃ s : Spelling,
    plain (digitsOf n) (-(places : Int)) = String.ofList s.chars ∧ s.Gives ⟨n, -(places : Int)⟩ := by
  have count : (- -(places : Int)).toNat = places := by omega
  have negativeExponent : ¬-(places : Int) ≥ 0 := by omega
  have leading := head?_digitsOf positive
  have whole : Whole ((digitsOf n).take ((digitsOf n).length - places)) := by
    refine .of_head (fun c member => isDigit_digitsOf n c (List.mem_of_mem_take member)) ?_ ?_
    · rw [List.head?_take, if_neg (by omega)]
      exact leading
    · intro empty
      rcases List.take_eq_nil_iff.1 empty with length | empty
      · omega
      · exact digitsOf_ne_nil n empty
  have fraction : ∀ c ∈ (digitsOf n).drop ((digitsOf n).length - places), c.isDigit = true :=
    fun c member => isDigit_digitsOf n c (List.mem_of_mem_drop member)
  have length : ((digitsOf n).drop ((digitsOf n).length - places)).length = places := by
    rw [List.length_drop]
    omega
  simp only [plain]
  rw [if_neg negativeExponent, count, if_neg (Nat.not_le.2 long)]
  refine Spelling.gives_plain whole ?_ fraction (List.length_pos_iff.1 (by omega)) (Nat.zero_le _)
    ?_ ?_
  · rw [List.length_take]
    omega
  · rw [List.take_append_drop, ofDigitChars_digitsOf, Nat.pow_zero, Nat.one_mul]
  · rw [length]
    exact (Int.sub_zero _).symm

theorem spelling_plain {exponent : Int} (positive : n ≠ 0)
    (limit : exponent + (digitsOf n).length ≤ 16) :
    ∃ s : Spelling, plain (digitsOf n) exponent = String.ofList s.chars ∧ s.Gives ⟨n, exponent⟩ := by
  rcases Int.lt_or_le exponent 0 with fractional | whole
  · obtain ⟨places, rfl⟩ : ∃ places : Nat, exponent = -(places : Int) :=
      ⟨(-exponent).toNat, by omega⟩
    rcases Nat.lt_or_ge places (digitsOf n).length with long | short
    · exact spelling_plain_between positive (by omega) long (by omega)
    · exact spelling_plain_small (by omega) short
  · obtain ⟨exponent, rfl⟩ := Int.eq_ofNat_of_zero_le whole
    exact spelling_plain_large positive (by omega)

theorem scientific_json (c : Char) (others : List Char) (e : Int) :
    scientific .json (c :: others) e =
      String.ofList (Spelling.chars ⟨[c], others, some e⟩) := by
  have digits : toString e.natAbs = String.ofList (digitsOf e.natAbs) := rfl
  have sign : (if e < 0 then "-" else FloatLayout.json.exponentSign) =
      String.ofList [if e < 0 then '-' else '+'] := by
    split <;> rfl
  have letter : "e" = String.ofList ['e'] := rfl
  simp only [scientific, List.take_succ_cons, List.take_zero, List.drop_succ_cons, List.drop_zero]
  rw [digits, sign, letter, ← String.ofList_append, ← String.ofList_append, ← String.ofList_append]
  cases others <;> simp [Spelling.chars, Spelling.pointChars, Spelling.exponentChars]

theorem spelling_scientific {exponent : Int} (positive : n ≠ 0)
    (limit : exponent + (digitsOf n).length - 1 < 400) :
    ∃ s : Spelling, scientific .json (digitsOf n) (exponent + (digitsOf n).length - 1) =
      String.ofList s.chars ∧ s.Gives ⟨n, exponent⟩ := by
  have digits := isDigit_digitsOf n
  have worth := ofDigitChars_digitsOf n
  have leading := head?_digitsOf positive
  obtain ⟨c, others, shape⟩ := List.exists_cons_of_ne_nil (digitsOf_ne_nil n)
  rw [shape] at limit digits worth leading ⊢
  obtain ⟨first, later⟩ := List.forall_mem_cons.1 digits
  have lead : Whole [c] := .of_head (List.forall_mem_singleton.2 first) leading
    (List.cons_ne_nil _ _)
  have scale : exponent + ((c :: others).length : Int) - 1 = exponent + others.length := by
    rw [List.length_cons]
    omega
  rw [scale] at limit ⊢
  rw [scientific_json]
  refine ⟨_, rfl, ⟨lead, Nat.le_of_ble_eq_true rfl, later, .inr (Option.some_ne_none _), ?_,
    0, Nat.zero_le _, ?_, ?_⟩⟩
  · rintro _ ⟨rfl⟩
    exact limit
  · rw [List.singleton_append, worth, Nat.pow_zero, Nat.one_mul]
  · rw [Option.getD_some, Int.add_sub_cancel]
    exact (Int.sub_zero _).symm

end Decimal

end

/-- The text of a magnitude is spelled as its shortest decimal. -/
theorem Magnitude.exists_spelling (m : Magnitude) :
    ∃ s : Spelling, m.shortest.text .json = String.ofList s.chars ∧ s.Gives m.shortest := by
  have nearest := ofDecimal?_shortest m
  by_cases zero : m.shortest.digits = 0
  · have rounded (e : Int) : ofDecimal? 0 e = some .zero := if_pos rfl
    rw [zero, rounded] at nearest
    cases nearest
    exact Spelling.gives_plain whole_zero (by decide) (isDigit_zeros 1) (List.cons_ne_nil _ _)
      (show 1 ≤ 1 from Nat.le_refl 1) rfl rfl
  · have limit := exponent_lt_of_ofDecimal? nearest (Decimal.pow_le_of_digitsOf zero)
    have first := List.length_pos_iff.2 (Decimal.digitsOf_ne_nil m.shortest.digits)
    simp only [Decimal.text]
    rw [if_neg zero]
    split
    · next plain =>
      have below : m.shortest.exponent + ((Decimal.digitsOf m.shortest.digits).length : Int) - 1 < 16 :=
        plain.2
      exact Decimal.spelling_plain zero (by omega)
    · exact Decimal.spelling_scientific zero (by omega)

/-- A double has the sign in front of its magnitude. -/
theorem Real64.exists_spelling (r : Real64) : ∃ s : Spelling,
    r.text = String.ofList (Spelling.signChars r.negative ++ s.chars) ∧
      s.Gives r.magnitude.shortest := by
  obtain ⟨s, text, gives⟩ := r.magnitude.exists_spelling
  refine ⟨s, ?_, gives⟩
  rw [Real64.text, Real64.textWith, text, String.ofList_append]
  cases r.negative <;> rfl

/-- So has an integer. -/
theorem Decimal.toString_eq (z : Int) : toString z =
    String.ofList (Spelling.signChars (decide (z < 0)) ++ digitsOf z.natAbs) := by
  rw [Int.toString_eq_repr, Int.repr_eq_if, String.ofList_append]
  rcases Int.lt_or_le z 0 with negative | nonnegative
  · have magnitude : (-z).toNat = z.natAbs := by omega
    rw [if_neg (Int.not_le.2 negative), decide_eq_true negative, magnitude]
    rfl
  · have magnitude : z.toNat = z.natAbs := by omega
    rw [if_pos nonnegative, decide_eq_false (Int.not_lt.2 nonnegative), magnitude]
    rfl

end TopicGateway
