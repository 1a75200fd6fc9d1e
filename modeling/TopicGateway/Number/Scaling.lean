import TopicGateway.Number.Binary64

/-! A decimal from its digits and its exponent by one multiplication or a few divisions. The digits and
the power of ten are rounded each, and so is every result, so what comes out is close to the decimal
but not always the magnitude nearest to it. -/
namespace TopicGateway.Magnitude

def times? (a b : Magnitude) : Option Magnitude :=
  nearest? (a.units * b.units) one

def over? (a b : Magnitude) : Option Magnitude :=
  nearest? (a.units * one) b.units

/-- The largest exponent of a power of ten that is finite. -/
def maxPower : Nat := 308

def powerOfTen? (exponent : Nat) : Option Magnitude :=
  ofDecimal? 1 exponent

/-- Divides by the largest power of ten so many times, but not what has become zero. -/
def lowered? : Nat → Magnitude → Option Magnitude
  | 0, m => some m
  | rounds + 1, m =>
    if m = zero then some zero
    else do (← m.over? (← powerOfTen? maxPower)).lowered? rounds

/-- `significand * 10 ^ exponent` in steps that are rounded, if no step leaves the range. -/
def scaled? (significand : Nat) (exponent : Int) : Option Magnitude := do
  let m ← ofDecimal? significand 0
  if 0 ≤ exponent then
    if exponent ≤ maxPower then m.times? (← powerOfTen? exponent.toNat)
    else if m = zero then some zero else none
  else
    let places := (-exponent).toNat
    let rounds := (places - 1) / maxPower
    (← m.lowered? rounds).over? (← powerOfTen? (places - maxPower * rounds))

end TopicGateway.Magnitude
