import TopicGateway.Number.Whole

/-! A number is read from the texts that write it in decimal, and from no others. -/
namespace TopicGateway.Whole

/-- A text writes a number in decimal, with any zeros in front, and with a plus sign or without. -/
def Writes (s : String) (n : Nat) : Prop :=
  ∃ ds : List Char, (s.toList = ds ∨ s.toList = '+' :: ds) ∧ ds ≠ [] ∧
    (∀ c ∈ ds, c.isDigit = true) ∧ Nat.ofDigitChars 10 ds 0 = n

theorem le_ofDigitChars (ds : List Char) (n : Nat) : n ≤ Nat.ofDigitChars 10 ds n := by
  induction ds generalizing n with
  | nil => exact Nat.le_refl n
  | cons c ds ih =>
    rw [Nat.ofDigitChars_cons]
    have more := ih (10 * n + (c.toNat - '0'.toNat))
    omega

/-- Digits are read to their end exactly if the number they make is inside the limit: what is read of
them up to some place is never more than that. -/
theorem digits_eq_ok_iff {limit m : Nat} (cs : List Char) {n : Nat} (inside : n ≤ limit) :
    digits limit n cs = .ok m ↔
      (∀ c ∈ cs, c.isDigit = true) ∧ Nat.ofDigitChars 10 cs n = m ∧ m ≤ limit := by
  induction cs generalizing n with
  | nil =>
    constructor
    · intro read
      cases read
      exact ⟨nofun, rfl, inside⟩
    · rintro ⟨_, rfl, _⟩
      rfl
  | cons c cs ih =>
    rw [digits, Nat.ofDigitChars_cons, show '0'.toNat = 0x30 from rfl]
    by_cases digit : c.isDigit = true
    · by_cases fits : 10 * n + (c.toNat - 0x30) ≤ limit
      · simp only [digit, fits, ↓reduceIte, ih fits, List.forall_mem_cons, true_and]
      · have beyond := le_ofDigitChars cs (10 * n + (c.toNat - 0x30))
        simp only [digit, fits, ↓reduceIte, reduceCtorEq, false_iff, not_and]
        omega
    · simp only [digit, Bool.false_eq_true, ↓reduceIte, reduceCtorEq, List.forall_mem_cons, false_and]

/-- What follows a plus sign, or all of a text without one. -/
theorem parse_eq_digits {limit n : Nat} {cs : List Char} (read : parse limit cs = .ok n) :
    ∃ ds, (cs = ds ∨ cs = '+' :: ds) ∧ ds ≠ [] ∧ digits limit 0 ds = .ok n := by
  match cs, read with
  | c :: cs, read =>
    by_cases plus : c = '+'
    · subst plus
      cases cs with
      | nil => cases read
      | cons d ds => exact ⟨d :: ds, .inr rfl, nofun, read⟩
    · refine ⟨c :: cs, .inl rfl, nofun, ?_⟩
      rwa [parse] at read
      all_goals grind

theorem parse_eq_ok_iff {limit n : Nat} (s : String) :
    parse limit s.toList = .ok n ↔ Writes s n ∧ n ≤ limit := by
  constructor
  · intro read
    obtain ⟨ds, text, some, read⟩ := parse_eq_digits read
    obtain ⟨digit, value, inside⟩ := (digits_eq_ok_iff ds (Nat.zero_le limit)).1 read
    exact ⟨⟨ds, text, some, digit, value⟩, inside⟩
  · rintro ⟨⟨ds, text, some, digit, value⟩, inside⟩
    have read := (digits_eq_ok_iff ds (Nat.zero_le limit)).2 ⟨digit, value, inside⟩
    obtain ⟨d, ds, rfl⟩ := List.exists_cons_of_ne_nil some
    have first : d ≠ '+' := by
      rintro rfl
      exact absurd (digit '+' (List.mem_cons_self ..)) (by decide)
    rcases text with bare | signed
    · rw [bare, parse, read]
      all_goals grind
    · rw [signed, parse, read]
      exact nofun

theorem Writes.unique {s : String} {n m : Nat} (first : Writes s n) (second : Writes s m) : n = m := by
  have left := (parse_eq_ok_iff s).2 ⟨first, Nat.le_max_left n m⟩
  have right := (parse_eq_ok_iff s).2 ⟨second, Nat.le_max_right n m⟩
  cases left.symm.trans right
  rfl

theorem parse16_eq_ok_iff {n : UInt16} (s : String) : parse16 s = .ok n ↔ Writes s n.toNat := by
  constructor
  · intro read
    cases given : parse (2 ^ 16 - 1) s.toList with
    | error fault =>
      rw [parse16, given] at read
      cases read
    | ok m =>
      obtain ⟨writes, inside⟩ := (parse_eq_ok_iff s).1 given
      rw [parse16, given] at read
      cases read
      rwa [UInt16.toNat_ofNat_of_lt' (Nat.lt_succ_of_le inside)]
  · intro writes
    have inside : n.toNat ≤ 2 ^ 16 - 1 := Nat.le_pred_of_lt n.toNat_lt
    rw [parse16, (parse_eq_ok_iff s).2 ⟨writes, inside⟩]
    simp [Except.map]

end TopicGateway.Whole
