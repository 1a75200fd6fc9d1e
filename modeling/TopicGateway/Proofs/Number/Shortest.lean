import TopicGateway.Number.Shortest
import TopicGateway.Proofs.Number.Rounding

/-! The decimal that is written for a magnitude is rounded back to it. Whichever way it was found,
it was tested or it holds every digit, and dropping zeros at its end changes nothing. -/
namespace TopicGateway

theorem Decimal.ofDecimal?_trimZeros (fuel : Nat) (d : Decimal) :
    Magnitude.ofDecimal? (trimZeros fuel d).digits (trimZeros fuel d).exponent =
      Magnitude.ofDecimal? d.digits d.exponent := by
  induction fuel generalizing d with
  | zero => rfl
  | succ fuel ih =>
    rw [trimZeros]
    split
    · next trims =>
      obtain ⟨_, zero⟩ := trims
      have digits : 10 * (d.digits / 10) = d.digits := Nat.mul_div_cancel' (Nat.dvd_of_mod_eq_zero zero)
      rw [ih, ← Magnitude.ofDecimal?_mul_ten, digits]
    · rfl

namespace Magnitude

theorem eq_zero_of_mantissa {m : Magnitude} (none : m.mantissa = 0) : m = zero := by
  have shift : m.shift = 0 := by
    rcases m.normal with shift | large
    · exact shift
    · omega
  obtain ⟨mantissa, s, _, _, _⟩ := m
  cases none
  cases shift
  rfl

theorem mul_five_pow (n k : Nat) : n * 5 ^ k * 2 ^ k = n * 10 ^ k := by
  rw [Nat.mul_assoc, ← Nat.mul_pow]

/-- The exact decimal with `k` places of a fraction with denominator `2 ^ k`. -/
theorem nearest?_mul_five_pow (n k : Nat) : nearest? (n * 5 ^ k * 2 ^ k) (10 ^ k) = nearest? n 1 := by
  have scaled := nearest?_mul (Nat.pow_pos (n := k) (show 0 < 10 by decide)) n 1
  rw [Nat.one_mul] at scaled
  rw [mul_five_pow, scaled]

theorem ofDecimal?_exactDecimal (m : Magnitude) :
    ofDecimal? m.exactDecimal.digits m.exactDecimal.exponent = some m := by
  obtain ⟨places, units, count⟩ := exists_one
  have shape : m.exactDecimal = ⟨m.units * 5 ^ places, -(places : Int)⟩ := by
    rw [count]
    rfl
  rw [shape, ofDecimal?_places _ (by omega), units, nearest?_mul_five_pow, nearest?_units]

theorem ofDecimal?_of_onGrid? {m : Magnitude} {exponent : Int} {d : Decimal}
    (found : m.onGrid? exponent = some d) : ofDecimal? d.digits d.exponent = some m := by
  have tested : m.readsBack d = true := by
    simp only [onGrid?] at found
    by_cases rounded : m.readsBack
        ⟨roundDiv (m.quotient exponent).1 (m.quotient exponent).2, exponent⟩ = true
    · rw [if_pos rounded] at found
      exact Option.some.inj found ▸ rounded
    · rw [if_neg rounded] at found
      obtain ⟨other, eq⟩ := Option.ite_none_right_eq_some.1 found
      exact Option.some.inj eq ▸ other
  exact eq_of_beq tested

/-- What is written for a magnitude has it as its nearest one. -/
theorem ofDecimal?_shortest (m : Magnitude) :
    ofDecimal? m.shortest.digits m.shortest.exponent = some m := by
  by_cases none : m.mantissa = 0
  · rw [shortest, if_pos none, eq_zero_of_mantissa none]
    rfl
  · rw [shortest, if_neg none]
    simp only [Decimal.ofDecimal?_trimZeros]
    cases search : (List.range 17).findSome? fun extra => m.onGrid? (m.scale - (extra : Nat)) with
    | none => exact ofDecimal?_exactDecimal m
    | some d =>
      obtain ⟨extra, _, found⟩ := List.exists_of_findSome?_eq_some search
      exact ofDecimal?_of_onGrid? found

end Magnitude

end TopicGateway
