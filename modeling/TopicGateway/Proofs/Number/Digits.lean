import TopicGateway.Json.Printer
import TopicGateway.Json.Scan

/-! Decimal digits as characters and as bytes: which bytes a text of ASCII characters has, and what
its digits are worth. -/
namespace TopicGateway

namespace Text

def asciiByte (c : Char) : UInt8 :=
  c.val.toUInt8

theorem Utf8.encode_append (s t : String) : encode (s ++ t) = encode s ++ encode t := by
  simp [encode, String.toByteArray_append]

theorem Utf8.encode_ofList {cs : List Char} (ascii : ∀ c ∈ cs, c.toNat < 128) :
    encode (String.ofList cs) = cs.map asciiByte := by
  induction cs with
  | nil => rfl
  | cons c cs ih =>
    have small : c.val ≤ 127 := by
      have bound := ascii c (List.mem_cons_self ..)
      exact UInt32.le_iff_toNat_le.2 (Nat.le_of_lt_succ bound)
    have single : String.utf8EncodeChar c = [asciiByte c] :=
      String.utf8EncodeChar_eq_singleton (Char.utf8Size_eq_one_iff.2 small)
    have rest := ih fun d member => ascii d (List.mem_cons_of_mem c member)
    have split : String.ofList ([c] ++ cs) = String.ofList [c] ++ String.ofList cs :=
      String.ofList_append
    rw [List.singleton_append] at split
    have first : encode (String.ofList [c]) = [asciiByte c] := by
      simp [encode, List.utf8Encode_singleton, single]
    rw [split, encode_append, first, rest]
    rfl

theorem asciiByte_toNat {c : Char} (ascii : c.toNat < 128) : (asciiByte c).toNat = c.toNat := by
  simp only [asciiByte, UInt32.toNat_toUInt8]
  exact Nat.mod_eq_of_lt (by simp only [Char.toNat] at ascii; omega)

theorem isDigit_bounds {c : Char} (digit : c.isDigit = true) : 48 ≤ c.toNat ∧ c.toNat ≤ 57 := by
  simpa [Char.isDigit, UInt32.le_iff_toNat_le] using digit

theorem ascii_of_isDigit {c : Char} (digit : c.isDigit = true) : c.toNat < 128 := by
  have := isDigit_bounds digit
  omega

end Text

open Text (asciiByte)

namespace Json

theorem isDigit_iff {b : UInt8} : isDigit b = true ↔ 48 ≤ b.toNat ∧ b.toNat ≤ 57 := by
  simp [isDigit, UInt8.le_iff_toNat_le]

theorem isDigit_asciiByte {c : Char} (digit : c.isDigit = true) : isDigit (asciiByte c) = true := by
  rw [isDigit_iff, Text.asciiByte_toNat (Text.ascii_of_isDigit digit)]
  exact Text.isDigit_bounds digit

/-- Digits read on from the number `n` that those before them made. -/
def digitsFrom (n : Nat) (digits : List UInt8) : Nat :=
  digits.foldl (fun n d => n * 10 + (d.toNat - 0x30)) n

theorem digitsFrom_map {cs : List Char} (digits : ∀ c ∈ cs, c.isDigit = true) (n : Nat) :
    digitsFrom n (cs.map asciiByte) = Nat.ofDigitChars 10 cs n := by
  induction cs generalizing n with
  | nil => rfl
  | cons c cs ih =>
    have byte := Text.asciiByte_toNat (Text.ascii_of_isDigit (digits c (List.mem_cons_self ..)))
    have next : n * 10 + (c.toNat - 48) = 10 * n + (c.toNat - '0'.toNat) := by
      rw [Nat.mul_comm]
      rfl
    have rest := ih (fun d member => digits d (List.mem_cons_of_mem c member))
      (n * 10 + (c.toNat - 48))
    rw [Nat.ofDigitChars_cons, ← next, ← rest, List.map_cons, digitsFrom, List.foldl_cons, byte]
    rfl

end Json

namespace Decimal

theorem isDigit_digitsOf (n : Nat) : ∀ c ∈ digitsOf n, c.isDigit = true :=
  fun _ member => Nat.isDigit_of_mem_toDigits (by decide) (by decide) member

theorem digitsOf_ne_nil (n : Nat) : digitsOf n ≠ [] :=
  Nat.toDigits_ne_nil

theorem ofDigitChars_digitsOf (n : Nat) : Nat.ofDigitChars 10 (digitsOf n) 0 = n :=
  Nat.ofDigitChars_ten_toDigits

/-- A number that is not zero has no zero in front. -/
theorem head?_digitsOf {n : Nat} (positive : n ≠ 0) : (digitsOf n).head? ≠ some '0' := by
  induction n using Nat.strongRecOn with
  | ind n ih =>
    rcases Nat.lt_or_ge n 10 with small | large
    · rw [digitsOf, Nat.toDigits_of_lt_base small]
      intro zero
      have worth : n.digitChar.toNat - 48 = n := Nat.toNat_digitChar_sub_48_of_lt_ten small
      rw [Option.some.inj zero] at worth
      exact positive worth.symm
    · have leading := ih (n / 10) (by omega) (by omega)
      rw [digitsOf, Nat.toDigits_of_base_le (by decide) large, List.head?_append]
      cases first : (Nat.toDigits 10 (n / 10)).head? with
      | none => exact absurd (List.head?_eq_none_iff.1 first) Nat.toDigits_ne_nil
      | some c =>
        rw [digitsOf, first] at leading
        exact leading

theorem pow_le_of_digitsOf {n : Nat} (positive : n ≠ 0) :
    10 ^ ((digitsOf n).length - 1) ≤ n := by
  rcases Nat.eq_zero_or_pos ((digitsOf n).length - 1) with one | more
  · rw [one]
    exact Nat.one_le_iff_ne_zero.2 positive
  · apply Nat.le_of_not_lt
    intro below
    have short := (Nat.length_toDigits_le_iff (b := 10) (by decide) more).2 below
    have length := List.length_pos_iff.2 (digitsOf_ne_nil n)
    simp only [digitsOf] at *
    omega

end Decimal

end TopicGateway
