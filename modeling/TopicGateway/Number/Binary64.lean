/-! Binary floating point of 64 bits. Every finite magnitude is a whole number of units of 2^-1074, so
all arithmetic here is exact arithmetic on natural numbers. `Magnitude.nearest?` rounds a quotient of
naturals to the nearest magnitude, a tie to the even mantissa, and has no answer beyond the largest
finite one. -/

-- A power with a natural exponent is the core library's one, whatever other powers are in scope.
attribute [instance (high)] instPowNat

attribute [default_instance 20000] instPowNat

namespace TopicGateway

/-- A finite magnitude: `mantissa * 2 ^ shift` units of 2^-1074, in its one normal form. -/
structure Magnitude where
  mantissa : Nat
  shift : Nat
  mantissa_lt : mantissa < 2 ^ 53
  normal : shift = 0 ∨ 2 ^ 52 ≤ mantissa
  shift_le : shift ≤ 2045
  deriving DecidableEq

namespace Magnitude

def zero : Magnitude := ⟨0, 0, by decide, .inl rfl, by decide⟩

instance : Inhabited Magnitude := ⟨zero⟩

/-- The value counted in units of 2^-1074. -/
def units (m : Magnitude) : Nat :=
  m.mantissa * 2 ^ m.shift

/-- So many units are one. -/
def one : Nat := 2 ^ 1074

/-- The magnitude `mantissa * 2 ^ shift`, where a mantissa of 2^53 carries into the shift. -/
def carry? (mantissa shift : Nat) : Option Magnitude :=
  if hs : shift ≤ 2045 then
    if hm : mantissa < 2 ^ 53 then
      if hn : shift = 0 ∨ 2 ^ 52 ≤ mantissa then some ⟨mantissa, shift, hm, hn, hs⟩ else none
    else if hs' : shift + 1 ≤ 2045 then
      some ⟨2 ^ 52, shift + 1, by decide, .inr (Nat.le_refl _), hs'⟩
    else none
  else none

/-- How far a whole number of units is shifted so that its mantissa has 53 bits. -/
def shiftOf (units : Nat) : Nat :=
  if units < 2 ^ 53 then 0 else units.log2 - 52

/-- `num / den` to the nearest whole number, a tie to the even one. -/
def roundDiv (num den : Nat) : Nat :=
  let quotient := num / den
  let twice := 2 * (num % den)
  if twice < den ∨ (twice = den ∧ quotient % 2 = 0) then quotient else quotient + 1

/-- The magnitude nearest to `num / den` units, a tie to the even mantissa. -/
def nearest? (num den : Nat) : Option Magnitude :=
  let shift := shiftOf (num / den)
  carry? (roundDiv num (den * 2 ^ shift)) shift

/-- The magnitude nearest to `digits * 10 ^ exponent`. Beyond the ends of the range the powers of
ten are not computed. -/
def ofDecimal? (digits : Nat) (exponent : Int) : Option Magnitude :=
  if digits = 0 then some zero
  else if exponent ≥ 0 then
    if exponent > 400 then none else nearest? (digits * 10 ^ exponent.toNat * one) 1
  else if digits.log2 < 3 * ((-exponent).toNat - 400) then some zero
  else nearest? (digits * one) (10 ^ (-exponent).toNat)

end Magnitude

/-- A finite number with its sign; zero has two. -/
structure Real64 where
  negative : Bool
  magnitude : Magnitude
  deriving DecidableEq, Inhabited

inductive Binary64 where
  | finite (r : Real64)
  | infinite (negative : Bool)
  | nan
  deriving DecidableEq, Inhabited

def Real64.ofDecimal? (negative : Bool) (digits : Nat) (exponent : Int) : Option Real64 :=
  (Magnitude.ofDecimal? digits exponent).map fun m => ⟨negative, m⟩

/-- The float nearest to a signed decimal; beyond the largest finite one it is infinite. -/
def Binary64.ofDecimal (negative : Bool) (digits : Nat) (exponent : Int) : Binary64 :=
  match Real64.ofDecimal? negative digits exponent with
  | some r => .finite r
  | none => .infinite negative

end TopicGateway
