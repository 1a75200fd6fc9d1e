import TopicGateway.Number.Binary64

/-! Rounding depends on the value of a quotient only, not on how it is written as a fraction. The
ends where the powers of ten are not computed agree with what rounding would give, so a decimal may
move zeros between its digits and its exponent. -/
namespace TopicGateway.Magnitude

theorem roundDiv_mul {k : Nat} (positive : 0 < k) (num den : Nat) :
    roundDiv (num * k) (den * k) = roundDiv num den := by
  have quotient : num * k / (den * k) = num / den := Nat.mul_div_mul_right num den positive
  have remainder : num * k % (den * k) = num % den * k := Nat.mul_mod_mul_right k num den
  have twice : 2 * (num % den * k) = 2 * (num % den) * k := (Nat.mul_assoc _ _ _).symm
  have below : 2 * (num % den) * k < den * k ↔ 2 * (num % den) < den :=
    Nat.mul_lt_mul_right positive
  have tie : 2 * (num % den) * k = den * k ↔ 2 * (num % den) = den :=
    Nat.mul_left_inj (Nat.ne_of_gt positive)
  simp only [roundDiv, quotient, remainder, twice, below, tie]

theorem nearest?_mul {k : Nat} (positive : 0 < k) (num den : Nat) :
    nearest? (num * k) (den * k) = nearest? num den := by
  have quotient : num * k / (den * k) = num / den := Nat.mul_div_mul_right num den positive
  have rounded : roundDiv (num * k) (den * k * 2 ^ shiftOf (num / den)) =
      roundDiv num (den * 2 ^ shiftOf (num / den)) := by
    rw [Nat.mul_right_comm]
    exact roundDiv_mul positive _ _
  simp only [nearest?, quotient, rounded]

theorem nearest?_mul_ten (digits scale places : Nat) :
    nearest? (10 * digits * scale) (10 ^ (places + 1)) =
      nearest? (digits * scale) (10 ^ places) := by
  rw [Nat.pow_succ, Nat.mul_assoc 10, Nat.mul_comm 10]
  exact nearest?_mul (by decide) _ _

theorem roundDiv_exact {den : Nat} (positive : 0 < den) (n : Nat) : roundDiv (n * den) den = n := by
  simp [roundDiv, Nat.mul_div_cancel n positive, positive]

theorem shiftOf_units (m : Magnitude) : shiftOf m.units = m.shift := by
  have fits := m.mantissa_lt
  rcases Nat.eq_zero_or_pos m.shift with subnormal | shifted
  · have small : m.units < 2 ^ 53 := by
      rw [units, subnormal, Nat.pow_zero, Nat.mul_one]
      exact fits
    rw [shiftOf, if_pos small, subnormal]
  · have leading : 2 ^ 52 ≤ m.mantissa := m.normal.resolve_left (Nat.ne_of_gt shifted)
    have lower : 2 ^ (52 + m.shift) ≤ m.units := by
      rw [Nat.pow_add]
      exact Nat.mul_le_mul_right _ leading
    have upper : m.units < 2 ^ (53 + m.shift) := by
      rw [Nat.pow_add]
      exact Nat.mul_lt_mul_of_pos_right fits (Nat.two_pow_pos _)
    have large : 2 ^ 53 ≤ m.units :=
      Nat.le_trans (Nat.pow_le_pow_right (by decide) (by omega)) lower
    have positive : m.units ≠ 0 := by omega
    have atLeast : 52 + m.shift ≤ m.units.log2 := (Nat.le_log2 positive).2 lower
    have below : m.units.log2 < 53 + m.shift := (Nat.log2_lt positive).2 upper
    rw [shiftOf, if_neg (by omega)]
    omega

/-- A whole number of units that is a magnitude is its own nearest one. -/
theorem nearest?_units (m : Magnitude) : nearest? m.units 1 = some m := by
  have exact : roundDiv m.units (1 * 2 ^ m.shift) = m.mantissa := by
    rw [Nat.one_mul]
    exact roundDiv_exact (Nat.two_pow_pos _) _
  simp only [nearest?, Nat.div_one, shiftOf_units, exact, carry?]
  rw [dif_pos m.shift_le, dif_pos m.mantissa_lt, dif_pos m.normal]

theorem nearest?_eq_none {num den : Nat} (large : 2 ^ 2098 ≤ num / den) :
    nearest? num den = none := by
  have positive : num / den ≠ 0 := Nat.ne_of_gt (Nat.lt_of_lt_of_le (Nat.two_pow_pos _) large)
  have bits : 2098 ≤ (num / den).log2 := (Nat.le_log2 positive).2 large
  have notSmall : ¬num / den < 2 ^ 53 :=
    Nat.not_lt.2 (Nat.le_trans (Nat.pow_le_pow_right (by decide) (by decide)) large)
  have shift : ¬shiftOf (num / den) ≤ 2045 := by
    rw [shiftOf, if_neg notSmall]
    clear large notSmall
    omega
  simp only [nearest?, carry?]
  rw [dif_neg shift]

theorem le_roundDiv (num den : Nat) : num / den ≤ roundDiv num den := by
  simp only [roundDiv]
  split
  · exact Nat.le_refl _
  · exact Nat.le_succ _

/-- What is rounded is at most half a step away. -/
theorem roundDiv_bounds {den : Nat} (positive : 0 < den) (num : Nat) :
    2 * num ≤ (2 * roundDiv num den + 1) * den ∧ 2 * (roundDiv num den * den) ≤ 2 * num + den := by
  have parts : num / den * den + num % den = num := Nat.div_add_mod' num den
  have rest : num % den < den := Nat.mod_lt num positive
  have up : (num / den + 1) * den = num / den * den + den := Nat.succ_mul _ _
  simp only [roundDiv, Nat.add_mul, Nat.mul_assoc, Nat.one_mul]
  split
  · omega
  · rw [up]
    omega

/-- A shift of a quotient leaves 53 bits, and no fewer where it drops any. -/
theorem shiftOf_bounds (q : Nat) :
    q < 2 ^ (53 + shiftOf q) ∧ (shiftOf q = 0 ∨ 2 ^ (52 + shiftOf q) ≤ q) := by
  by_cases small : q < 2 ^ 53
  · rw [shiftOf, if_pos small]
    exact ⟨small, .inl rfl⟩
  · have positive : q ≠ 0 := fun zero => small (zero ▸ Nat.two_pow_pos 53)
    have wide : 53 ≤ q.log2 := (Nat.le_log2 positive).2 (Nat.not_lt.1 small)
    rw [shiftOf, if_neg small, show 53 + (q.log2 - 52) = q.log2 + 1 by omega,
      show 52 + (q.log2 - 52) = q.log2 by omega]
    exact ⟨Nat.lt_log2_self, .inr (Nat.log2_self_le positive)⟩

theorem two_pow_add_mul (a b n : Nat) : 2 ^ (a + b) * n = 2 ^ a * (n * 2 ^ b) := by
  rw [Nat.pow_add, Nat.mul_comm n, Nat.mul_assoc]

/-- A step of the quotient is no more than one part in `2 ^ 52` of it. -/
theorem step_le {num den : Nat} (normal : 2 ^ 52 * den ≤ num) :
    2 ^ 52 * (den * 2 ^ shiftOf (num / den)) ≤ num := by
  rcases (shiftOf_bounds (num / den)).2 with unshifted | leading
  · rw [unshifted, Nat.pow_zero, Nat.mul_one]
    exact normal
  · calc
      2 ^ 52 * (den * 2 ^ shiftOf (num / den)) = 2 ^ (52 + shiftOf (num / den)) * den :=
        (two_pow_add_mul ..).symm
      _ ≤ num / den * den := Nat.mul_le_mul_right _ leading
      _ ≤ num := Nat.div_mul_le_self num den

theorem units_of_carry? {mantissa shift : Nat} {m : Magnitude} (fits : mantissa ≤ 2 ^ 53)
    (carried : carry? mantissa shift = some m) :
    m.units = mantissa * 2 ^ shift ∧ shift ≤ m.shift := by
  unfold carry? at carried
  split at carried
  · split at carried
    · split at carried
      · cases carried
        exact ⟨rfl, Nat.le_refl _⟩
      · cases carried
    · next large =>
      split at carried
      · cases carried
        have full : mantissa = 2 ^ 52 * 2 := Nat.le_antisymm fits (Nat.not_lt.1 large)
        have carry : 2 ^ 52 * 2 ^ (shift + 1) = 2 ^ 52 * 2 * 2 ^ shift := by
          rw [Nat.mul_assoc, ← Nat.pow_succ' (n := shift)]
        exact ⟨carry.trans (congrArg (· * 2 ^ shift) full.symm), Nat.le_succ _⟩
      · cases carried
  · cases carried

section Nearest

variable {num den : Nat} {m : Magnitude}

theorem roundDiv_le (positive : 0 < den) :
    roundDiv num (den * 2 ^ shiftOf (num / den)) ≤ 2 ^ 53 := by
  have below := (shiftOf_bounds (num / den)).1
  have step : 0 < den * 2 ^ shiftOf (num / den) := Nat.mul_pos positive (Nat.two_pow_pos _)
  have inside : num < 2 ^ 53 * (den * 2 ^ shiftOf (num / den)) := by
    rw [Nat.mul_left_comm, ← Nat.pow_add, Nat.mul_comm]
    exact (Nat.div_lt_iff_lt_mul positive).1 below
  have rounded := (roundDiv_bounds step num).2
  generalize roundDiv num (den * 2 ^ shiftOf (num / den)) = r at rounded
  generalize den * 2 ^ shiftOf (num / den) = d at step inside rounded
  apply Nat.le_of_lt_succ
  apply Nat.lt_of_mul_lt_mul_right (a := d)
  rw [Nat.succ_mul]
  omega

theorem units_of_nearest? (positive : 0 < den) (nearest : nearest? num den = some m) :
    m.units = roundDiv num (den * 2 ^ shiftOf (num / den)) * 2 ^ shiftOf (num / den) ∧
      shiftOf (num / den) ≤ m.shift :=
  units_of_carry? (roundDiv_le positive) nearest

/-- What is rounded is less than half a step of the magnitude above it. -/
theorem le_units_of_nearest? (positive : 0 < den) (nearest : nearest? num den = some m) :
    2 * num ≤ (2 * m.units + 2 ^ m.shift) * den := by
  obtain ⟨value, shift⟩ := units_of_nearest? positive nearest
  have step : 0 < den * 2 ^ shiftOf (num / den) := Nat.mul_pos positive (Nat.two_pow_pos _)
  calc
    2 * num ≤ (2 * roundDiv num (den * 2 ^ shiftOf (num / den)) + 1) *
        (den * 2 ^ shiftOf (num / den)) := (roundDiv_bounds step num).1
    _ = (2 * m.units + 2 ^ shiftOf (num / den)) * den := by
      rw [value, Nat.mul_comm den, ← Nat.mul_assoc, Nat.add_mul, Nat.mul_assoc 2, Nat.one_mul]
    _ ≤ (2 * m.units + 2 ^ m.shift) * den := Nat.mul_le_mul_right _
      (Nat.add_le_add_left (Nat.pow_le_pow_right (by decide) shift) _)

/-- Rounding adds no more than one part in `2 ^ 53`, unless the magnitude has fewer bits. -/
theorem units_le_of_nearest? (positive : 0 < den) (normal : 2 ^ 52 * den ≤ num)
    (nearest : nearest? num den = some m) : m.units * den * 2 ^ 53 ≤ num * (2 ^ 53 + 1) := by
  have value := (units_of_nearest? positive nearest).1
  have step : 0 < den * 2 ^ shiftOf (num / den) := Nat.mul_pos positive (Nat.two_pow_pos _)
  have rounded := (roundDiv_bounds step num).2
  have small := step_le normal
  have same : roundDiv num (den * 2 ^ shiftOf (num / den)) * (den * 2 ^ shiftOf (num / den)) =
      m.units * den := by
    rw [value, Nat.mul_comm den, Nat.mul_assoc]
  rw [same] at rounded
  generalize den * 2 ^ shiftOf (num / den) = d at small rounded
  omega

/-- A power of two that is not more than the quotient is not more than what it is rounded to. -/
theorem two_pow_le_units (positive : 0 < den) {bits : Nat} (large : 2 ^ bits * den ≤ num)
    (nearest : nearest? num den = some m) : 2 ^ bits ≤ m.units := by
  have value := (units_of_nearest? positive nearest).1
  have floor := le_roundDiv num (den * 2 ^ shiftOf (num / den))
  rw [value]
  rcases (shiftOf_bounds (num / den)).2 with unshifted | leading
  · simp only [unshifted, Nat.pow_zero, Nat.mul_one] at floor ⊢
    exact Nat.le_trans ((Nat.le_div_iff_mul_le positive).2 large) floor
  generalize shiftOf (num / den) = shift at floor leading ⊢
  have step : 0 < den * 2 ^ shift := Nat.mul_pos positive (Nat.two_pow_pos _)
  rcases Nat.le_total bits shift with inside | above
  · have one : 1 ≤ num / (den * 2 ^ shift) := by
      rw [Nat.le_div_iff_mul_le step, Nat.one_mul, Nat.mul_comm]
      refine Nat.le_trans (Nat.mul_le_mul_right den ?_) (Nat.div_mul_le_self num den)
      exact Nat.le_trans (Nat.pow_le_pow_right (by decide) (Nat.le_add_left shift 52)) leading
    calc
      2 ^ bits ≤ 2 ^ shift := Nat.pow_le_pow_right (by decide) inside
      _ = 1 * 2 ^ shift := (Nat.one_mul _).symm
      _ ≤ _ := Nat.mul_le_mul_right _ (Nat.le_trans one floor)
  · obtain ⟨more, rfl⟩ := Nat.exists_eq_add_of_le above
    have quotient : 2 ^ more ≤ num / (den * 2 ^ shift) := by
      rw [Nat.le_div_iff_mul_le step]
      calc
        2 ^ more * (den * 2 ^ shift) = 2 ^ (shift + more) * den := by
          rw [Nat.add_comm, two_pow_add_mul]
        _ ≤ num := large
    rw [Nat.pow_add, Nat.mul_comm (2 ^ shift)]
    exact Nat.mul_le_mul_right _ (Nat.le_trans quotient floor)

end Nearest

/-- The step between the largest magnitudes. -/
def topStep : Nat := 2 ^ 2045

theorem exists_topStep : ∃ top, topStep = 2 ^ top ∧ top = 2045 :=
  ⟨_, rfl, rfl⟩

theorem exists_one : ∃ bits, one = 2 ^ bits ∧ bits = 1074 :=
  ⟨_, rfl, rfl⟩

/-- Half a step beyond the largest magnitude, in half units. -/
def overflow : Nat := (2 ^ 54 - 1) * topStep

theorem overflow_mul (den : Nat) : overflow * den + den * topStep = 2 ^ 54 * (den * topStep) := by
  rw [overflow, Nat.mul_assoc, Nat.mul_comm topStep]
  omega

theorem carry?_isSome {mantissa shift : Nat} (inside : shift ≤ 2045)
    (top : shift < 2045 ∨ mantissa < 2 ^ 53) (normal : shift = 0 ∨ 2 ^ 52 ≤ mantissa) :
    (carry? mantissa shift).isSome = true := by
  unfold carry?
  rw [dif_pos inside]
  split
  · rfl
  · next large =>
    have below : shift + 1 ≤ 2045 := top.resolve_right large
    rw [dif_pos below]
    rfl

/-- There is a magnitude nearest to every number below that bound. -/
theorem nearest?_isSome {num den : Nat} (small : 2 * num < overflow * den) :
    (nearest? num den).isSome = true := by
  have positive : 0 < den := Nat.pos_of_ne_zero fun zero => by
    rw [zero, Nat.mul_zero] at small
    exact Nat.not_lt_zero _ small
  have room := overflow_mul den
  have leading := (shiftOf_bounds (num / den)).2
  simp only [nearest?]
  generalize shiftOf (num / den) = shift at leading ⊢
  have floor := le_roundDiv num (den * 2 ^ shift)
  have rounded := (roundDiv_bounds (Nat.mul_pos positive (Nat.two_pow_pos shift)) num).2
  generalize roundDiv num (den * 2 ^ shift) = mantissa at floor rounded ⊢
  have normal : shift = 0 ∨ 2 ^ 52 ≤ mantissa := by
    refine leading.imp_right fun large => Nat.le_trans ?_ floor
    rw [← Nat.div_div_eq_div_mul, Nat.le_div_iff_mul_le (Nat.two_pow_pos _), ← Nat.pow_add]
    exact large
  obtain ⟨top, step, bits⟩ := exists_topStep
  have inside : shift ≤ 2045 := by
    apply Nat.not_lt.1
    intro beyond
    have wide : 2 ^ 53 * (den * topStep) ≤ num := by
      calc
        2 ^ 53 * (den * topStep) = 2 ^ (53 + top) * den := by rw [step, two_pow_add_mul]
        _ ≤ 2 ^ (52 + shift) * den :=
          Nat.mul_le_mul_right _ (Nat.pow_le_pow_right (by decide) (by omega))
        _ ≤ num / den * den := Nat.mul_le_mul_right _ (leading.resolve_left (by omega))
        _ ≤ num := Nat.div_mul_le_self num den
    omega
  refine carry?_isSome inside ?_ normal
  rcases Nat.lt_or_eq_of_le inside with below | last
  · exact .inl below
  · have same : 2 ^ shift = topStep := by rw [step, show shift = top by omega]
    rw [same] at rounded
    refine .inr (Nat.lt_of_mul_lt_mul_right (a := den * topStep) ?_)
    omega

theorem nearest?_eq_zero {num den : Nat} (small : 2 * num < den) :
    nearest? num den = some zero := by
  have quotient : num / den = 0 := Nat.div_eq_of_lt (by omega)
  have remainder : num % den = num := Nat.mod_eq_of_lt (by omega)
  have rounded : roundDiv num den = 0 := by
    simp [roundDiv, quotient, remainder, small]
  simp [nearest?, quotient, shiftOf, rounded, carry?, zero]

theorem nearest?_zero_mul {den : Nat} (positive : 0 < den) (scale : Nat) :
    nearest? (0 * scale) den = some zero := by
  rw [Nat.zero_mul]
  exact nearest?_eq_zero positive

theorem ofDecimal?_natCast (digits : Nat) {exponent : Nat} (inRange : exponent ≤ 400) :
    ofDecimal? digits exponent = nearest? (digits * 10 ^ exponent * one) 1 := by
  have whole : (exponent : Int) ≥ 0 := Int.natCast_nonneg exponent
  have notBeyond : ¬((exponent : Int) > 400) := by omega
  by_cases none : digits = 0
  · rw [none, Nat.zero_mul, nearest?_zero_mul Nat.one_pos]
    rfl
  · rw [ofDecimal?, if_neg none, if_pos whole, if_neg notBeyond, Int.toNat_natCast]

theorem ofDecimal?_beyond {digits exponent : Nat} (positive : digits ≠ 0)
    (beyond : 400 < exponent) : ofDecimal? digits exponent = none := by
  have whole : (exponent : Int) ≥ 0 := Int.natCast_nonneg exponent
  have tooLarge : (exponent : Int) > 400 := by omega
  rw [ofDecimal?, if_neg positive, if_pos whole, if_pos tooLarge]

theorem two_pow_le {a b c : Nat} (bits : a ≤ 3 * b + c) : 2 ^ a ≤ 10 ^ b * 2 ^ c := by
  calc
    2 ^ a ≤ 2 ^ (3 * b + c) := Nat.pow_le_pow_right (by decide) bits
    _ = 8 ^ b * 2 ^ c := by rw [Nat.pow_add, Nat.pow_mul]
    _ ≤ 10 ^ b * 2 ^ c := Nat.mul_le_mul_right _ (Nat.pow_le_pow_left (by decide) b)

/-- A number of this many bits, `k` bits further up, is less than half of the power of ten. -/
theorem two_mul_lt {digits bits k places : Nat} (below : digits < 2 ^ bits)
    (fits : bits + (k + 1) ≤ 3 * places) : 2 * (digits * 2 ^ k) < 10 ^ places := by
  calc
    2 * (digits * 2 ^ k) = digits * 2 ^ (k + 1) := by
      rw [Nat.pow_succ, Nat.mul_comm 2, Nat.mul_assoc]
    _ < 2 ^ bits * 2 ^ (k + 1) := Nat.mul_lt_mul_of_pos_right below (Nat.two_pow_pos _)
    _ = 2 ^ (bits + (k + 1)) := (Nat.pow_add ..).symm
    _ ≤ 10 ^ places * 2 ^ 0 := two_pow_le fits
    _ = 10 ^ places := Nat.mul_one _

/-- Where the powers of ten are not computed the quotient is too small to be rounded up. -/
theorem nearest?_of_cutoff {digits places : Nat} (cutoff : digits.log2 < 3 * (places - 400)) :
    nearest? (digits * one) (10 ^ places) = some zero := by
  apply nearest?_eq_zero
  have bits : digits < 2 ^ (3 * (places - 400)) := by
    rcases Nat.eq_zero_or_pos digits with none | positive
    · rw [none]
      exact Nat.two_pow_pos _
    · exact (Nat.log2_lt (Nat.ne_of_gt positive)).1 cutoff
  obtain ⟨one, units, count⟩ := exists_one
  rw [units]
  exact two_mul_lt bits (by omega)

/-- A decimal with places is rounded as the fraction it denotes, cut off or not. -/
theorem ofDecimal?_places (digits : Nat) {places : Nat} (positive : 0 < places) :
    ofDecimal? digits (-(places : Int)) = nearest? (digits * one) (10 ^ places) := by
  have negative : ¬(-(places : Int) ≥ 0) := by omega
  have magnitude : (- -(places : Int)).toNat = places := by omega
  by_cases none : digits = 0
  · have power : 0 < 10 ^ places := Nat.pow_pos (by decide)
    rw [none, nearest?_zero_mul power (one)]
    rfl
  · rw [ofDecimal?, if_neg none, if_neg negative, magnitude]
    split
    · next cutoff => exact (nearest?_of_cutoff cutoff).symm
    · rfl

/-- From `10 ^ 400` on there is no nearest magnitude. -/
theorem nearest?_beyond {num den far : Nat} (positive : 0 < den) (beyond : 400 ≤ far)
    (large : 10 ^ far * den ≤ num) : nearest? (num * one) den = none := by
  apply nearest?_eq_none
  obtain ⟨bits, units, count⟩ := exists_one
  have power : 2 ^ (3 * far + bits) ≤ 10 ^ far * one := units ▸ two_pow_le (Nat.le_refl _)
  apply (Nat.le_div_iff_mul_le positive).2
  calc
    2 ^ 2098 * den ≤ 10 ^ far * one * den := Nat.mul_le_mul_right _
      (Nat.le_trans (Nat.pow_le_pow_right (by decide) (by omega)) power)
    _ = 10 ^ far * den * one := Nat.mul_right_comm ..
    _ ≤ num * one := Nat.mul_le_mul_right _ large

/-- A zero at the end of the digits may stand in the exponent instead. -/
theorem ofDecimal?_mul_ten (digits : Nat) (exponent : Int) :
    ofDecimal? (10 * digits) exponent = ofDecimal? digits (exponent + 1) := by
  by_cases none : digits = 0
  · subst none
    rfl
  have tenfold : 10 * digits ≠ 0 := by omega
  rcases Int.lt_or_le exponent 0 with negative | nonnegative
  · obtain ⟨places, eq⟩ : ∃ places : Nat, exponent = -((places + 1 : Nat) : Int) :=
      ⟨(-exponent).toNat - 1, by omega⟩
    subst eq
    rw [ofDecimal?_places _ (Nat.succ_pos places), nearest?_mul_ten]
    rcases Nat.eq_zero_or_pos places with whole | fractional
    · subst whole
      have unit := ofDecimal?_natCast digits (Nat.zero_le 400)
      rw [Nat.pow_zero, Nat.mul_one] at unit
      exact unit.symm
    · have shifted : -((places + 1 : Nat) : Int) + 1 = -(places : Int) := by omega
      rw [shifted, ofDecimal?_places _ fractional]
  · obtain ⟨e, eq⟩ := Int.eq_ofNat_of_zero_le nonnegative
    subst eq
    have shifted : (e : Int) + 1 = ((e + 1 : Nat) : Int) := rfl
    rw [shifted]
    rcases Nat.lt_trichotomy e 400 with inside | last | beyond
    · have same : 10 * digits * 10 ^ e = digits * 10 ^ (e + 1) := by
        rw [Nat.pow_succ, Nat.mul_comm 10 digits, Nat.mul_assoc, Nat.mul_comm 10]
      rw [ofDecimal?_natCast _ (Nat.le_of_lt inside), ofDecimal?_natCast _ inside, same]
    · have large : 10 ^ e * 1 ≤ 10 * digits * 10 ^ e := by
        rw [Nat.mul_one]
        exact Nat.le_mul_of_pos_left _ (Nat.pos_of_ne_zero tenfold)
      rw [ofDecimal?_natCast _ (Nat.le_of_eq last), ofDecimal?_beyond none (by omega)]
      exact nearest?_beyond Nat.one_pos (Nat.le_of_eq last.symm) large
    · rw [ofDecimal?_beyond tenfold beyond, ofDecimal?_beyond none (by omega)]

theorem ofDecimal?_mul_pow_ten (digits zeros : Nat) (exponent : Int) :
    ofDecimal? (10 ^ zeros * digits) exponent = ofDecimal? digits (exponent + zeros) := by
  induction zeros generalizing exponent with
  | zero => simp
  | succ zeros ih =>
    have shifted : exponent + ((zeros + 1 : Nat) : Int) = exponent + 1 + zeros := by omega
    rw [Nat.pow_succ, Nat.mul_right_comm, Nat.mul_comm _ 10, ofDecimal?_mul_ten, ih, shifted]

/-- The first digit of a finite decimal stands below `10 ^ 400`. -/
theorem exponent_lt_of_ofDecimal? {digits : Nat} {exponent : Int} {m : Magnitude}
    (finite : ofDecimal? digits exponent = some m) {length : Nat} (leading : 10 ^ length ≤ digits) :
    exponent + length < 400 := by
  have positive : digits ≠ 0 :=
    Nat.ne_of_gt (Nat.lt_of_lt_of_le (Nat.pow_pos (by decide)) leading)
  apply Classical.byContradiction
  intro large
  rcases Int.lt_or_le exponent 0 with negative | nonnegative
  · obtain ⟨places, eq⟩ : ∃ places : Nat, exponent = -(places : Int) :=
      ⟨(-exponent).toNat, by omega⟩
    subst eq
    have beyond : 10 ^ (length - places) * 10 ^ places ≤ digits := by
      rw [← Nat.pow_add, Nat.sub_add_cancel (by omega)]
      exact leading
    have none := nearest?_beyond (Nat.pow_pos (by decide)) (by omega) beyond
    rw [ofDecimal?_places digits (by omega), none] at finite
    cases finite
  · obtain ⟨e, eq⟩ := Int.eq_ofNat_of_zero_le nonnegative
    subst eq
    rcases Nat.lt_or_ge 400 e with cut | inRange
    · rw [ofDecimal?_beyond positive cut] at finite
      cases finite
    · have beyond : 10 ^ (length + e) * 1 ≤ digits * 10 ^ e := by
        rw [Nat.mul_one, Nat.pow_add]
        exact Nat.mul_le_mul_right _ leading
      rw [ofDecimal?_natCast digits inRange, nearest?_beyond Nat.one_pos (by omega) beyond]
        at finite
      cases finite

end TopicGateway.Magnitude
