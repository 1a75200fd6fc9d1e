import TopicGateway.Number.Scaling
import TopicGateway.Proofs.Number.Rounding

/-! What comes out of a decimal that is scaled step by step. Division never leaves the range. A
multiplication stays inside it below a bound that leaves room for two roundings, so every decimal is
read whose nearest magnitude is not among the largest three. Few digits and a small exponent are scaled
in one rounding, and then the result is the nearest magnitude. -/
namespace TopicGateway.Magnitude

variable {m p : Magnitude}

theorem one_pos : 0 < one := by
  obtain ⟨bits, units, _⟩ := exists_one
  rw [units]
  exact Nat.two_pow_pos bits

theorem units_lt (m : Magnitude) : 2 * m.units < overflow := by
  obtain ⟨top, step, bits⟩ := exists_topStep
  have shift : 2 ^ m.shift ≤ topStep := by
    rw [step]
    exact Nat.pow_le_pow_right (by decide) (bits ▸ m.shift_le)
  have mantissa := m.mantissa_lt
  have positive : 0 < topStep := step ▸ Nat.two_pow_pos top
  calc
    2 * m.units = 2 * m.mantissa * 2 ^ m.shift := (Nat.mul_assoc ..).symm
    _ ≤ 2 * m.mantissa * topStep := Nat.mul_le_mul_left _ shift
    _ < overflow := Nat.mul_lt_mul_of_pos_right (by omega) positive

/-- What is divided by one or more stays finite. -/
theorem over?_isSome (m : Magnitude) (atLeast : one ≤ p.units) : (m.over? p).isSome = true := by
  apply nearest?_isSome
  calc
    2 * (m.units * one) = 2 * m.units * one := (Nat.mul_assoc ..).symm
    _ < overflow * one := Nat.mul_lt_mul_of_pos_right m.units_lt one_pos
    _ ≤ overflow * p.units := Nat.mul_le_mul_left _ atLeast

theorem ofDecimal?_zero_exponent (n : Nat) : ofDecimal? n 0 = nearest? (n * one) 1 := by
  have whole := ofDecimal?_natCast n (Nat.zero_le 400)
  rwa [Nat.pow_zero, Nat.mul_one] at whole

theorem exists_nearest {n : Nat} (inside : 2 * n < overflow) : ∃ m, nearest? n 1 = some m :=
  Option.isSome_iff_exists.1 (nearest?_isSome (by rwa [Nat.mul_one]))

/-- A number from one on, in units, has all its bits. -/
theorem normal_of_pos {n : Nat} (positive : n ≠ 0) : 2 ^ 52 * 1 ≤ n * one := by
  obtain ⟨bits, units, count⟩ := exists_one
  rw [units, Nat.mul_one]
  exact Nat.le_trans (Nat.pow_le_pow_right (by decide) (by omega))
    (Nat.le_mul_of_pos_left _ (Nat.pos_of_ne_zero positive))

/-- A whole number that is rounded, and how far it can have grown. -/
theorem exists_rounded {n : Nat} (positive : n ≠ 0) (inside : 2 * (n * one) < overflow) :
    ∃ m, nearest? (n * one) 1 = some m ∧ one ≤ m.units ∧
      m.units * 2 ^ 53 ≤ n * one * (2 ^ 53 + 1) := by
  obtain ⟨m, nearest⟩ := exists_nearest inside
  have close := units_le_of_nearest? Nat.one_pos (normal_of_pos positive) nearest
  rw [Nat.mul_one] at close
  refine ⟨m, nearest, ?_, close⟩
  obtain ⟨bits, units, _⟩ := exists_one
  rw [units] at nearest ⊢
  refine two_pow_le_units Nat.one_pos ?_ nearest
  rw [Nat.mul_one]
  exact Nat.le_mul_of_pos_left _ (Nat.pos_of_ne_zero positive)

theorem exists_powerOfTen {exponent : Nat} (inside : exponent ≤ maxPower) :
    ∃ p, powerOfTen? exponent = some p ∧ one ≤ p.units ∧
      p.units * 2 ^ 53 ≤ 10 ^ exponent * one * (2 ^ 53 + 1) := by
  have top : 2 * (10 ^ maxPower * one) < overflow := by decide +kernel
  have below : 2 * (10 ^ exponent * one) < overflow :=
    Nat.lt_of_le_of_lt (Nat.mul_le_mul_left 2 (Nat.mul_le_mul_right one
      (Nat.pow_le_pow_right (by decide) inside))) top
  have positive : 10 ^ exponent ≠ 0 := Nat.ne_of_gt (Nat.pow_pos (by decide))
  obtain ⟨p, nearest, atLeast, close⟩ := exists_rounded positive below
  have range : exponent ≤ 400 := Nat.le_trans inside (by decide)
  refine ⟨p, ?_, atLeast, close⟩
  rw [powerOfTen?, ofDecimal?_natCast 1 range, Nat.one_mul]
  exact nearest

theorem lowered?_succ (rounds : Nat) (positive : m ≠ zero) : m.lowered? (rounds + 1) =
    (powerOfTen? maxPower).bind fun p => (m.over? p).bind (lowered? rounds) := by
  rw [lowered?, if_neg positive]
  rfl

theorem lowered?_isSome (rounds : Nat) (m : Magnitude) : (m.lowered? rounds).isSome = true := by
  induction rounds generalizing m with
  | zero => rfl
  | succ rounds ih =>
    by_cases none : m = zero
    · rw [lowered?, if_pos none]
      rfl
    · obtain ⟨p, power, atLeast, _⟩ := exists_powerOfTen (Nat.le_refl maxPower)
      obtain ⟨quotient, divided⟩ := Option.isSome_iff_exists.1 (over?_isSome m atLeast)
      rw [lowered?_succ rounds none, power, Option.bind_some, divided, Option.bind_some]
      exact ih quotient

/-- Half a step beyond the largest magnitude but three, in half units. -/
def safe : Nat := (2 ^ 54 - 7) * topStep

theorem safe_lt_overflow : safe < overflow := by
  obtain ⟨top, step, _⟩ := exists_topStep
  exact Nat.mul_lt_mul_of_pos_right (by decide) (step ▸ Nat.two_pow_pos top)

/-- Two roundings stay inside the range. -/
theorem safe_mul_lt : safe * (2 ^ 53 + 1) ^ 2 < overflow * (2 ^ 53 * 2 ^ 53) := by
  obtain ⟨top, step, _⟩ := exists_topStep
  have positive : 0 < topStep := step ▸ Nat.two_pow_pos top
  rw [safe, overflow, Nat.mul_right_comm, Nat.mul_right_comm _ topStep]
  exact Nat.mul_lt_mul_of_pos_right (by decide) positive

theorem mul_scaled (a b s : Nat) : 2 * (a * b) * (s * s) = 2 * (a * s * (b * s)) := by
  ac_rfl

theorem mul_units (a b unit : Nat) : a * unit * (b * unit) = a * b * unit * unit := by
  ac_rfl

theorem mul_places (n a b unit : Nat) : 2 * (n * a * unit) * b = 2 * (n * (a * b) * unit) := by
  ac_rfl

theorem mul_grown (a b unit f : Nat) :
    2 * (a * unit * f * (b * unit * f)) = 2 * (a * b * unit) * f ^ 2 * unit := by
  rw [Nat.pow_two]
  ac_rfl

section Scaled

variable {significand : Nat}

theorem exists_significand (inside : 2 * (significand * one) < overflow) :
    ∃ m, ofDecimal? significand 0 = some m := by
  by_cases zero : significand = 0
  · exact ⟨.zero, if_pos zero⟩
  · obtain ⟨m, nearest, _⟩ := exists_rounded zero inside
    exact ⟨m, (ofDecimal?_zero_exponent _).trans nearest⟩

/-- So far a decimal with places is scaled: by the remainder of its places, behind full divisions. -/
theorem scaled?_of_neg {exponent : Int} (negative : exponent < 0)
    (digits : ofDecimal? significand 0 = some m) : scaled? significand exponent =
      (m.lowered? (((-exponent).toNat - 1) / maxPower)).bind fun low =>
        (powerOfTen? ((-exponent).toNat - maxPower * (((-exponent).toNat - 1) / maxPower))).bind
          low.over? := by
  rw [scaled?, digits]
  exact if_neg (Int.not_le.2 negative)

theorem scaled?_of_inside {exponent : Nat} (inside : exponent ≤ maxPower)
    (digits : ofDecimal? significand 0 = some m) :
    scaled? significand exponent = (powerOfTen? exponent).bind m.times? := by
  have nonnegative : (0 : Int) ≤ exponent := Int.natCast_nonneg exponent
  have limit : (exponent : Int) ≤ maxPower := Int.ofNat_le.2 inside
  simp only [scaled?, digits, Option.bind_eq_bind, Option.bind_some, if_pos nonnegative,
    if_pos limit, Int.toNat_natCast]

theorem scaled?_isSome_of_neg {exponent : Int} (negative : exponent < 0)
    (inside : 2 * (significand * one) < overflow) : (scaled? significand exponent).isSome = true := by
  obtain ⟨m, digits⟩ := exists_significand inside
  rw [scaled?_of_neg negative digits]
  generalize (-exponent).toNat = places
  obtain ⟨low, lowered⟩ := Option.isSome_iff_exists.1 (m.lowered?_isSome ((places - 1) / maxPower))
  have rest : places - maxPower * ((places - 1) / maxPower) ≤ maxPower := by
    have bound := Nat.lt_mul_div_succ (places - 1) (show 0 < maxPower by decide)
    rw [Nat.mul_succ] at bound
    omega
  obtain ⟨p, power, atLeast, _⟩ := exists_powerOfTen rest
  rw [lowered, Option.bind_some, power, Option.bind_some]
  exact over?_isSome low atLeast

theorem scaled?_zero (exponent : Nat) : scaled? 0 exponent = some zero := by
  have digits : ofDecimal? 0 0 = some zero := rfl
  by_cases limit : exponent ≤ maxPower
  · obtain ⟨p, power, _⟩ := exists_powerOfTen limit
    have product : zero.times? p = some zero := nearest?_zero_mul one_pos p.units
    rw [scaled?_of_inside limit digits, power, Option.bind_some, product]
  · have beyond : ¬(exponent : Int) ≤ maxPower := fun inside => limit (Int.ofNat_le.1 inside)
    simp only [scaled?, digits, Option.bind_eq_bind, Option.bind_some, if_neg beyond,
      if_pos (Int.natCast_nonneg exponent), if_true]

/-- A decimal below the bound is scaled up, whatever its two roundings add. -/
theorem scaled?_isSome {exponent : Nat}
    (inside : 2 * (significand * 10 ^ exponent * one) ≤ safe) :
    (scaled? significand exponent).isSome = true := by
  by_cases positive : significand = 0
  · rw [positive, scaled?_zero]
    rfl
  have tens : 0 < 10 ^ exponent := Nat.pow_pos (by decide)
  have limit : exponent ≤ maxPower := by
    apply Nat.not_lt.1
    intro beyond
    have large : safe < 2 * (1 * 10 ^ (maxPower + 1) * one) := by decide +kernel
    have grown : 2 * (1 * 10 ^ (maxPower + 1) * one) ≤ 2 * (significand * 10 ^ exponent * one) :=
      Nat.mul_le_mul_left 2 (Nat.mul_le_mul_right one (Nat.mul_le_mul
        (Nat.pos_of_ne_zero positive) (Nat.pow_le_pow_right (by decide) beyond)))
    omega
  have alone : 2 * (significand * one) < overflow := by
    refine Nat.lt_of_le_of_lt (Nat.le_trans ?_ inside) safe_lt_overflow
    exact Nat.mul_le_mul_left 2 (Nat.mul_le_mul_right one (Nat.le_mul_of_pos_right _ tens))
  obtain ⟨f, nearest, _, digits⟩ := exists_rounded positive alone
  obtain ⟨p, power, _, close⟩ := exists_powerOfTen limit
  rw [scaled?_of_inside limit ((ofDecimal?_zero_exponent _).trans nearest), power,
    Option.bind_some]
  apply nearest?_isSome
  apply Nat.lt_of_mul_lt_mul_right (a := 2 ^ 53 * 2 ^ 53)
  calc
    2 * (f.units * p.units) * (2 ^ 53 * 2 ^ 53) = 2 * (f.units * 2 ^ 53 * (p.units * 2 ^ 53)) :=
      mul_scaled ..
    _ ≤ 2 * (significand * one * (2 ^ 53 + 1) * (10 ^ exponent * one * (2 ^ 53 + 1))) :=
      Nat.mul_le_mul_left 2 (Nat.mul_le_mul digits close)
    _ = 2 * (significand * 10 ^ exponent * one) * (2 ^ 53 + 1) ^ 2 * one := mul_grown ..
    _ ≤ safe * (2 ^ 53 + 1) ^ 2 * one :=
      Nat.mul_le_mul_right one (Nat.mul_le_mul_right _ inside)
    _ < overflow * (2 ^ 53 * 2 ^ 53) * one := Nat.mul_lt_mul_of_pos_right safe_mul_lt one_pos
    _ = overflow * one * (2 ^ 53 * 2 ^ 53) := Nat.mul_right_comm ..

/-- Digits that are left off only make a decimal smaller. If its nearest magnitude is not among the
largest three, what remains of it is scaled. -/
theorem scaled?_isSome_of_ofDecimal? {digits left : Nat} {exponent : Int}
    (nearest : ofDecimal? digits exponent = some m) (below : 2 * m.units + 2 ^ m.shift ≤ safe)
    (lead : significand * 10 ^ left ≤ digits) (inside : 2 * (significand * one) < overflow) :
    (scaled? significand (exponent + left)).isSome = true := by
  rcases Int.lt_or_le (exponent + left) 0 with negative | nonnegative
  · exact scaled?_isSome_of_neg negative inside
  by_cases zero : significand = 0
  · obtain ⟨e, eq⟩ := Int.eq_ofNat_of_zero_le nonnegative
    rw [eq, zero, scaled?_zero]
    rfl
  have leading : 0 < significand * 10 ^ left :=
    Nat.mul_pos (Nat.pos_of_ne_zero zero) (Nat.pow_pos (by decide))
  have positive : digits ≠ 0 := Nat.ne_of_gt (Nat.lt_of_lt_of_le leading lead)
  rcases Int.lt_or_le exponent 0 with fractional | whole
  · obtain ⟨places, rfl⟩ : ∃ places : Nat, exponent = -(places : Int) :=
      ⟨(-exponent).toNat, by omega⟩
    obtain ⟨e, rfl⟩ : ∃ e, left = e + places := ⟨left - places, by omega⟩
    have same : -(places : Int) + ((e + places : Nat) : Int) = e := by omega
    rw [ofDecimal?_places digits (by omega)] at nearest
    have tens : 0 < 10 ^ places := Nat.pow_pos (by decide)
    rw [same]
    apply scaled?_isSome
    refine Nat.le_trans (Nat.le_of_mul_le_mul_right ?_ tens) below
    calc
      2 * (significand * 10 ^ e * one) * 10 ^ places =
          2 * (significand * 10 ^ (e + places) * one) := by rw [Nat.pow_add, mul_places]
      _ ≤ 2 * (digits * one) := Nat.mul_le_mul_left 2 (Nat.mul_le_mul_right one lead)
      _ ≤ (2 * m.units + 2 ^ m.shift) * 10 ^ places := le_units_of_nearest? tens nearest
  · obtain ⟨e, rfl⟩ := Int.eq_ofNat_of_zero_le whole
    rcases Nat.lt_or_ge 400 e with cut | inRange
    · rw [ofDecimal?_beyond positive cut] at nearest
      cases nearest
    rw [ofDecimal?_natCast digits inRange] at nearest
    have bound := le_units_of_nearest? Nat.one_pos nearest
    rw [Nat.mul_one] at bound
    rw [← Int.natCast_add]
    apply scaled?_isSome
    refine Nat.le_trans (Nat.le_trans ?_ bound) below
    refine Nat.mul_le_mul_left 2 (Nat.mul_le_mul_right one ?_)
    rw [Nat.add_comm, Nat.pow_add, ← Nat.mul_assoc]
    exact Nat.mul_le_mul_right _ lead

end Scaled

/-- The largest three magnitudes, for which the bound leaves no room. -/
def largest : List Magnitude := [
  ⟨2 ^ 53 - 1, 2045, by decide, by decide, by decide⟩,
  ⟨2 ^ 53 - 2, 2045, by decide, by decide, by decide⟩,
  ⟨2 ^ 53 - 3, 2045, by decide, by decide, by decide⟩]

theorem below_of_not_largest (other : m ∉ largest) : 2 * m.units + 2 ^ m.shift ≤ safe := by
  obtain ⟨top, step, bits⟩ := exists_topStep
  have fits := m.mantissa_lt
  have shape : 2 * m.units + 2 ^ m.shift = (2 * m.mantissa + 1) * 2 ^ m.shift := by
    rw [units, Nat.add_mul, Nat.mul_assoc, Nat.one_mul]
  rw [shape, safe]
  rcases Nat.lt_or_eq_of_le m.shift_le with lower | last
  · have half : 2 ^ m.shift * 2 ≤ topStep := by
      rw [step, ← Nat.pow_succ]
      exact Nat.pow_le_pow_right (by decide) (by omega)
    calc
      (2 * m.mantissa + 1) * 2 ^ m.shift ≤ (2 ^ 54 - 7) * 2 * 2 ^ m.shift :=
        Nat.mul_le_mul_right _ (by omega)
      _ = (2 ^ 54 - 7) * (2 ^ m.shift * 2) := by rw [Nat.mul_assoc, Nat.mul_comm 2]
      _ ≤ (2 ^ 54 - 7) * topStep := Nat.mul_le_mul_left _ half
  · have same : 2 ^ m.shift = topStep := by rw [step, show m.shift = top by omega]
    rw [same]
    apply Nat.mul_le_mul_right
    apply Nat.not_lt.1
    intro large
    apply other
    have which : m.mantissa = 2 ^ 53 - 1 ∨ m.mantissa = 2 ^ 53 - 2 ∨ m.mantissa = 2 ^ 53 - 3 := by
      omega
    obtain ⟨mantissa, shift, _, _, _⟩ := m
    cases last
    rcases which with rfl | rfl | rfl <;> simp [largest]

theorem shiftOf_mul_le {a : Nat} (few : a < 2 ^ 53) (b : Nat) : shiftOf (a * 2 ^ b) ≤ b := by
  rw [shiftOf]
  split
  · exact Nat.zero_le b
  · next large =>
    have positive : a * 2 ^ b ≠ 0 := fun zero => large (zero ▸ Nat.two_pow_pos 53)
    have below : a * 2 ^ b < 2 ^ (53 + b) := by
      rw [Nat.pow_add]
      exact Nat.mul_lt_mul_of_pos_right few (Nat.two_pow_pos b)
    have bits := (Nat.log2_lt positive).2 below
    omega

/-- At most 53 bits are held as they are. -/
theorem exists_exact {a b : Nat} (few : a < 2 ^ 53) (inside : 2 * (a * 2 ^ b) < overflow) :
    ∃ m, nearest? (a * 2 ^ b) 1 = some m ∧ m.units = a * 2 ^ b := by
  obtain ⟨m, nearest⟩ := exists_nearest inside
  have value := (units_of_nearest? Nat.one_pos nearest).1
  refine ⟨m, nearest, ?_⟩
  obtain ⟨more, split⟩ := Nat.exists_eq_add_of_le (shiftOf_mul_le few b)
  rw [Nat.div_one, Nat.one_mul] at value
  have parts : a * 2 ^ b = a * 2 ^ more * 2 ^ shiftOf (a * 2 ^ b) := by
    rw [Nat.mul_assoc, ← Nat.pow_add, Nat.add_comm more, ← split]
  have exact := roundDiv_exact (Nat.two_pow_pos (shiftOf (a * 2 ^ b))) (a * 2 ^ more)
  rw [← parts] at exact
  rw [value, exact]
  exact parts.symm

theorem exists_exact_significand {n : Nat} (few : n < 2 ^ 53) :
    ∃ m, ofDecimal? n 0 = some m ∧ m.units = n * one := by
  have top : 2 * (2 ^ 53 * one) < overflow := by decide +kernel
  have inside : 2 * (n * one) < overflow := Nat.lt_of_le_of_lt
    (Nat.mul_le_mul_left 2 (Nat.mul_le_mul_right one (Nat.le_of_lt few))) top
  rw [ofDecimal?_zero_exponent]
  obtain ⟨bits, units, _⟩ := exists_one
  rw [units] at inside ⊢
  exact exists_exact few inside

theorem exists_exact_power {k : Nat} (small : k ≤ 22) :
    ∃ p, powerOfTen? k = some p ∧ p.units = 10 ^ k * one := by
  have top : 2 * (10 ^ 22 * one) < overflow := by decide +kernel
  have inside : 2 * (10 ^ k * one) < overflow := Nat.lt_of_le_of_lt
    (Nat.mul_le_mul_left 2 (Nat.mul_le_mul_right one (Nat.pow_le_pow_right (by decide) small))) top
  have few : 5 ^ k < 2 ^ 53 :=
    Nat.lt_of_le_of_lt (Nat.pow_le_pow_right (by decide) small) (by decide)
  rw [powerOfTen?, ofDecimal?_natCast 1 (Nat.le_trans small (by decide)), Nat.one_mul]
  obtain ⟨bits, units, _⟩ := exists_one
  have parts : 10 ^ k * one = 5 ^ k * 2 ^ (k + bits) := by
    rw [units, Nat.pow_add, ← Nat.mul_assoc, ← Nat.mul_pow]
  rw [parts] at inside ⊢
  exact exists_exact few inside

/-- A number of at most 53 bits and a power of ten that has no more are scaled in one rounding. -/
theorem scaled?_eq_ofDecimal? {significand : Nat} {exponent : Int} (few : significand < 2 ^ 53)
    (small : exponent.natAbs ≤ 22) : scaled? significand exponent = ofDecimal? significand exponent := by
  obtain ⟨m, digits, exact⟩ := exists_exact_significand few
  rcases Int.lt_or_le exponent 0 with negative | nonnegative
  · obtain ⟨places, rfl⟩ : ∃ places : Nat, exponent = -(places : Int) :=
      ⟨exponent.natAbs, by omega⟩
    have count : (- -(places : Int)).toNat = places := by omega
    have noRound : (places - 1) / maxPower = 0 := Nat.div_eq_of_lt (by rw [maxPower]; omega)
    obtain ⟨p, power, tens⟩ := exists_exact_power (k := places) (by omega)
    rw [scaled?_of_neg negative digits, count, noRound, Nat.mul_zero, Nat.sub_zero, lowered?,
      Option.bind_some, power, Option.bind_some, ofDecimal?_places _ (by omega), over?, exact, tens]
    exact nearest?_mul one_pos (significand * one) (10 ^ places)
  · obtain ⟨e, rfl⟩ := Int.eq_ofNat_of_zero_le nonnegative
    obtain ⟨p, power, tens⟩ := exists_exact_power (k := e) (by omega)
    have limit : e ≤ maxPower := by
      rw [maxPower]
      omega
    have scaled := nearest?_mul one_pos (significand * 10 ^ e * one) 1
    rw [Nat.one_mul] at scaled
    rw [scaled?_of_inside limit digits, power, Option.bind_some, times?, exact, tens,
      ofDecimal?_natCast _ (by omega), ← scaled, mul_units]

end TopicGateway.Magnitude
