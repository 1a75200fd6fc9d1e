import TopicGateway.Proofs.Number.Digits
import TopicGateway.Time.Rfc3339

/-! A point in time is read back from its written form: every part is a run of digits that the next
mark ends, and the offset is none. -/
namespace TopicGateway.Time

open Text (trimStart isWhite)

def EndsDigits (tail : List Char) : Prop :=
  ∀ c ∈ tail.head?, c.isDigit = false

theorem EndsDigits.cons {c : Char} (mark : c.isDigit = false) (tail : List Char) :
    EndsDigits (c :: tail) := by
  rintro d ⟨⟩
  exact mark

theorem isWhite_of_isDigit {c : Char} (digit : c.isDigit = true) : isWhite c = false := by
  have bounds := Text.isDigit_bounds digit
  simp only [isWhite, Bool.or_eq_false_iff, Bool.and_eq_false_iff, decide_eq_false_iff_not,
    beq_eq_false_iff_ne]
  omega

theorem trimStart_cons {c : Char} (visible : isWhite c = false) (cs : List Char) :
    trimStart (c :: cs) = c :: cs := by
  simp [trimStart, visible]

theorem trimStart_digits {ds : List Char} (isDigit : ∀ c ∈ ds, c.isDigit = true)
    (nonempty : ds ≠ []) (tail : List Char) : trimStart (ds ++ tail) = ds ++ tail := by
  obtain ⟨c, rest, rfl⟩ := List.exists_cons_of_ne_nil nonempty
  exact trimStart_cons (isWhite_of_isDigit (isDigit c (List.mem_cons_self ..))) _

theorem digitsValue_eq (ds : List Char) : digitsValue ds = Nat.ofDigitChars 10 ds 0 := by
  have step : (fun (n : Nat) (d : Char) => n * 10 + (d.toNat - 48)) =
      fun n d => 10 * n + (d.toNat - '0'.toNat) := by
    funext n d
    rw [Nat.mul_comm]
    rfl
  rw [digitsValue, Nat.ofDigitChars_eq_foldl, step]

theorem takeWhile_digits {ds tail : List Char} (isDigit : ∀ c ∈ ds, c.isDigit = true)
    (ends : EndsDigits tail) : (ds ++ tail).takeWhile Char.isDigit = ds := by
  rw [List.takeWhile_append_of_pos isDigit]
  cases tail with
  | nil => simp
  | cons c rest => simp [ends c rfl]

theorem digits_append {ds tail : List Char} {width : Option Nat}
    (isDigit : ∀ c ∈ ds, c.isDigit = true) (nonempty : ds ≠ [])
    (fits : ∀ w, width = some w → ds.length ≤ w) (ends : EndsDigits tail) :
    digits width (ds ++ tail) = .ok (ds, tail) := by
  have leading : leadingDigits width (ds ++ tail) = ds := by
    cases width with
    | none => exact takeWhile_digits isDigit ends
    | some w =>
      simp only [leadingDigits, takeWhile_digits isDigit ends]
      exact List.take_of_length_le (fits w rfl)
  rw [digits, leading]
  cases ds with
  | nil => exact absurd rfl nonempty
  | cons c rest => simp

theorem isDigit_padded (width n : Nat) : ∀ c ∈ padded width n, c.isDigit = true := by
  intro c member
  rcases List.mem_append.1 member with zero | digit
  · rw [List.eq_of_mem_replicate zero]
    rfl
  · exact Decimal.isDigit_digitsOf n c digit

theorem padded_ne_nil (width n : Nat) : padded width n ≠ [] := by
  simp [padded]

theorem digitsValue_padded (width n : Nat) : digitsValue (padded width n) = n := by
  rw [digitsValue_eq, padded, Nat.ofDigitChars_append, Nat.ofDigitChars_replicate_zero,
    Nat.mul_zero, Nat.ofDigitChars_ten_toDigits]

theorem length_padded {width n : Nat} (positive : 0 < width) (fits : n < 10 ^ width) :
    (padded width n).length = width := by
  have short := (Nat.length_toDigits_le_iff (b := 10) (by decide) positive).2 fits
  rw [padded, List.length_append, List.length_replicate]
  omega

theorem small_padded {low high n : Nat} {tail : List Char} (inside : low ≤ n ∧ n ≤ high)
    (two : n < 100) (ends : EndsDigits tail) :
    small low high (padded 2 n ++ tail) = .ok (n, tail) := by
  have isDigit := isDigit_padded 2 n
  have nonempty := padded_ne_nil 2 n
  have fits : ∀ w, some 2 = some w → (padded 2 n).length ≤ w := by
    rintro w ⟨⟩
    exact Nat.le_of_eq (length_padded (by decide) two)
  have value := digitsValue_padded 2 n
  rw [small, trimStart_digits isDigit nonempty, digits_append isDigit nonempty fits ends]
  simp [value, inside]

theorem readYear_yearChars {year : Int} {tail : List Char}
    (inside : -262143 ≤ year ∧ year ≤ 262142) (ends : EndsDigits tail) :
    readYear (yearChars year ++ tail) = .ok (year, tail) := by
  have isDigit := isDigit_padded 4 year.natAbs
  have nonempty := padded_ne_nil 4 year.natAbs
  have value := digitsValue_padded 4 year.natAbs
  have unlimited : digits none (padded 4 year.natAbs ++ tail) = .ok (padded 4 year.natAbs, tail) :=
    digits_append isDigit nonempty (by rintro w ⟨⟩) ends
  have bounded : boundedYear year tail = .ok (year, tail) := if_pos (by omega)
  rw [yearChars]
  split
  · next negative =>
    have back : -(year.natAbs : Int) = year := by omega
    have start : trimStart ('-' :: padded 4 year.natAbs ++ tail) =
        '-' :: (padded 4 year.natAbs ++ tail) := trimStart_cons (by decide) _
    rw [readYear, start]
    simp only [unlimited, value, back, bounded]
  · next nonnegative =>
    have back : (year.natAbs : Int) = year := by omega
    split
    · next short =>
      have fits : ∀ w, some 4 = some w → (padded 4 year.natAbs).length ≤ w := by
        rintro w ⟨⟩
        exact Nat.le_of_eq (length_padded (by decide) (by omega))
      have limited := digits_append isDigit nonempty fits ends
      have start := trimStart_digits isDigit nonempty tail
      obtain ⟨c, rest, shape⟩ := List.exists_cons_of_ne_nil nonempty
      have digit := isDigit c (shape ▸ List.mem_cons_self ..)
      have noMinus : c ≠ '-' := by
        rintro rfl
        cases digit
      have noPlus : c ≠ '+' := by
        rintro rfl
        cases digit
      rw [readYear, start]
      rw [shape] at limited value ⊢
      rw [List.cons_append] at limited ⊢
      simp [noMinus, noPlus, limited, value, back, bounded]
    · next long =>
      have start : trimStart ('+' :: padded 4 year.natAbs ++ tail) =
          '+' :: (padded 4 year.natAbs ++ tail) := trimStart_cons (by decide) _
      rw [readYear, start]
      simp only [unlimited, value, back, bounded]

theorem mark_cons (c : Char) (visible : isWhite c = false) (rest : List Char) :
    mark c (trimStart (c :: rest)) = .ok rest := by
  rw [trimStart_cons visible]
  exact if_pos rfl

theorem readFraction_padded {width n : Nat} (positive : 0 < width) (short : width ≤ 9)
    (fits : n < 10 ^ width) :
    readFraction ('.' :: padded width n ++ ['Z']) = .ok (n * 10 ^ (9 - width), ['Z']) := by
  have length := length_padded positive fits
  have most : ∀ w, some 9 = some w → (padded width n).length ≤ w := by
    rintro w ⟨⟩
    rw [length]
    exact short
  have read : digits (some 9) (padded width n ++ ['Z']) = .ok (padded width n, ['Z']) :=
    digits_append (isDigit_padded width n) (padded_ne_nil width n) most
      (.cons (by decide) [])
  have none : ['Z'].dropWhile Char.isDigit = ['Z'] := by decide
  simp only [List.cons_append, readFraction, read, digitsValue_padded, length, none]

theorem readFraction_fractionChars {nanosecond : Nat} (fits : nanosecond < 1000000000) :
    readFraction (fractionChars nanosecond ++ ['Z']) = .ok (nanosecond, ['Z']) := by
  rw [fractionChars]
  split
  · next zero =>
    subst zero
    rfl
  split
  · next milli =>
    have back : nanosecond / 1000000 * 10 ^ (9 - 3) = nanosecond :=
      Nat.div_mul_cancel (Nat.dvd_of_mod_eq_zero milli)
    rw [readFraction_padded (by decide) (by decide) (by omega), back]
  split
  · next micro =>
    have back : nanosecond / 1000 * 10 ^ (9 - 6) = nanosecond :=
      Nat.div_mul_cancel (Nat.dvd_of_mod_eq_zero micro)
    rw [readFraction_padded (by decide) (by decide) (by omega), back]
  · have back : nanosecond * 10 ^ (9 - 9) = nanosecond := Nat.mul_one _
    rw [readFraction_padded (by decide) (by decide) fits, back]

def Instant.parts (t : Instant) : Parts where
  year := t.date.year
  month := t.date.month
  day := t.date.day
  hour := t.hour
  minute := t.minute
  second := t.second
  nanosecond := t.nanosecond
  offsetMinutes := 0

theorem daysInMonth_le (year : Int) (month : Nat) : daysInMonth year month ≤ 31 := by
  unfold daysInMonth
  split
  · split <;> decide
  all_goals decide

theorem Parts.read_chars (t : Instant) : Parts.read t.chars = .ok t.parts := by
  obtain ⟨date, hour, minute, second, nanosecond, hourLt, minuteLt, secondLe, nanosecondLt⟩ := t
  obtain ⟨year, month, day, yearMem, monthMem, dayMem⟩ := date
  have lastDay := Nat.le_trans dayMem.2 (daysInMonth_le year month)
  have year (rest) : readYear (yearChars year ++ '-' :: rest) = .ok (year, '-' :: rest) :=
    readYear_yearChars yearMem (.cons (by decide) rest)
  have month (rest) : small 1 12 (padded 2 month ++ '-' :: rest) = .ok (month, '-' :: rest) :=
    small_padded monthMem (by omega) (.cons (by decide) rest)
  have day (rest) : small 1 31 (padded 2 day ++ 'T' :: rest) = .ok (day, 'T' :: rest) :=
    small_padded ⟨dayMem.1, lastDay⟩ (by omega) (.cons (by decide) rest)
  have hour (rest) : small 0 23 (padded 2 hour ++ ':' :: rest) = .ok (hour, ':' :: rest) :=
    small_padded ⟨Nat.zero_le _, Nat.le_of_lt_succ hourLt⟩ (by omega)
      (.cons (by decide) rest)
  have minute (rest) : small 0 59 (padded 2 minute ++ ':' :: rest) = .ok (minute, ':' :: rest) :=
    small_padded ⟨Nat.zero_le _, Nat.le_of_lt_succ minuteLt⟩ (by omega)
      (.cons (by decide) rest)
  have fraction : EndsDigits (fractionChars nanosecond ++ ['Z']) := by
    unfold fractionChars
    split
    · exact .cons (by decide) _
    split
    · exact .cons (by decide) _
    split
    · exact .cons (by decide) _
    · exact .cons (by decide) _
  have second : small 0 60 (padded 2 second ++ (fractionChars nanosecond ++ ['Z'])) =
      .ok (second, fractionChars nanosecond ++ ['Z']) :=
    small_padded ⟨Nat.zero_le _, secondLe⟩ (by omega) fraction
  have separated (rest : List Char) : separator ('T' :: rest) = .ok rest := rfl
  have zone : readOffset (trimStart ['Z']) = .ok (0, []) := rfl
  have done : (trimStart []).isEmpty = true := rfl
  simp only [Parts.read, Instant.chars, bind, Except.bind, year, mark_cons '-' (by decide), month,
    day, separated, hour, mark_cons ':' (by decide), minute, second,
    readFraction_fractionChars nanosecondLt, zone, done, if_true]
  rfl

theorem Parts.instant_parts (t : Instant) : t.parts.instant = .ok t := by
  have date : Date.ofCivil? t.date.year t.date.month t.date.day = some t.date :=
    dif_pos ⟨t.date.year_mem, t.date.month_mem, t.date.day_mem⟩
  have hour := t.hour_lt
  have minute := t.minute_lt
  have sameDay : (t.hour * 60 + t.minute : Int) - 0 < 1440 := by omega
  have notBefore : ¬(t.hour * 60 + t.minute : Int) - 0 < 0 := by omega
  have clock : (((t.hour * 60 + t.minute : Int) - 0) % 1440).toNat = t.hour * 60 + t.minute := by
    omega
  have hours : (t.hour * 60 + t.minute) / 60 = t.hour := by omega
  have minutes : (t.hour * 60 + t.minute) % 60 = t.minute := by omega
  have time : Instant.ofCivil? t.date t.hour t.minute t.second t.nanosecond = some t :=
    dif_pos ⟨hour, minute, t.second_le, t.nanosecond_lt⟩
  have inZone : Instant.ofLocal? t.date t.hour t.minute t.second t.nanosecond 0 = some t := by
    simp only [Instant.ofLocal?, notBefore, sameDay, if_false, if_true, clock, Option.bind_some,
      hours, minutes, time]
  simp only [Parts.instant, Instant.parts, date, inZone]
  rfl

/-- The text of a point in time is read as that point in time, in every year. -/
theorem Instant.parse_text (t : Instant) : Instant.parse t.text = .ok t := by
  have chars : t.text.toList = t.chars := String.toList_ofList
  rw [Instant.parse, chars, Parts.read_chars]
  exact Parts.instant_parts t

end TopicGateway.Time
