import TopicGateway.Proofs.Json.Members
import TopicGateway.Proofs.Json.Numbers
import TopicGateway.Proofs.Number.Scaling

/-! Numbers that are written and read again. An integer comes back as it was. The text of a double has
it for its nearest one, but is scaled in steps that are rounded, so what is read may be a neighbour of
what was written; it is always read, and with few digits it is the same. -/
namespace TopicGateway

open Text (asciiByte)

namespace Json

theorem digitsFrom_append (n : Nat) (ds es : List UInt8) :
    digitsFrom n (ds ++ es) = digitsFrom (digitsFrom n ds) es :=
  List.foldl_append ..

theorem mul_pow_le_digitsFrom (n : Nat) (ds : List UInt8) : n * 10 ^ ds.length ≤ digitsFrom n ds := by
  induction ds generalizing n with
  | nil => simp [digitsFrom]
  | cons d ds ih =>
    refine Nat.le_trans ?_ (ih (n * 10 + (d.toNat - 0x30)))
    rw [List.length_cons, Nat.pow_succ', ← Nat.mul_assoc]
    exact Nat.mul_le_mul_right _ (Nat.le_add_right _ _)

theorem digitsFrom_lt {ds : List UInt8} (digits : ∀ d ∈ ds, isDigit d = true) (n : Nat) :
    digitsFrom n ds < (n + 1) * 10 ^ ds.length := by
  induction ds generalizing n with
  | nil => simp [digitsFrom]
  | cons d ds ih =>
    obtain ⟨digit, others⟩ := List.forall_mem_cons.1 digits
    have small : d.toNat - 0x30 < 10 := by
      simp only [isDigit, Bool.and_eq_true, decide_eq_true_eq, UInt8.le_iff_toNat_le] at digit
      have := digit.2
      simp at this
      omega
    refine Nat.lt_of_lt_of_le (ih others (n * 10 + (d.toNat - 0x30))) ?_
    rw [List.length_cons, Nat.pow_succ', ← Nat.mul_assoc]
    exact Nat.mul_le_mul_right _ (by omega)

/-- What is taken up fits, and with zeros in the place of the other digits it is no more than all of
them are worth. -/
theorem takeDigits_bounds {n : Nat} (fits : n < 2 ^ 64) (ds : List UInt8) :
    (takeDigits n ds).1 < 2 ^ 64 ∧
    (takeDigits n ds).1 * 10 ^ (takeDigits n ds).2.length ≤ digitsFrom n ds := by
  induction ds generalizing n with
  | nil => simp [takeDigits, digitsFrom, fits]
  | cons d ds ih =>
    simp only [takeDigits]
    split
    · next room => exact ih room
    · exact ⟨fits, mul_pow_le_digitsFrom n (d :: ds)⟩

theorem takeDigits_of_fits {n : Nat} {ds : List UInt8} (fits : digitsFrom n ds < 2 ^ 64) :
    takeDigits n ds = (digitsFrom n ds, []) := by
  induction ds generalizing n with
  | nil => rfl
  | cons d ds ih =>
    have room : n * 10 + (d.toNat - 0x30) < 2 ^ 64 := Nat.lt_of_le_of_lt (le_digitsFrom _ ds) fits
    simp only [takeDigits, if_pos room]
    exact ih fits

/-- Where the digits before the point fit, digits are left off behind it only. -/
theorem exists_taken {whole : List UInt8} (fits : digitsFrom 0 whole < 2 ^ 64)
    (fraction : List UInt8) :
    ∃ left : Nat, (taken whole fraction).exponent = (left : Int) - fraction.length ∧
      (taken whole fraction).significand < 2 ^ 64 ∧
      (taken whole fraction).significand * 10 ^ left ≤ digitsFrom 0 (whole ++ fraction) := by
  obtain ⟨small, lead⟩ := takeDigits_bounds fits fraction
  refine ⟨(takeDigits (digitsFrom 0 whole) fraction).2.length, ?_, ?_, ?_⟩
  · simp only [taken, takeDigits_of_fits fits, List.length_nil, Nat.zero_add]
  · simpa only [taken, takeDigits_of_fits fits] using small
  · simpa only [taken, takeDigits_of_fits fits, digitsFrom_append] using lead

/-- Digits that all fit are all taken up. -/
theorem taken_of_fits {whole fraction : List UInt8} (fits : digitsFrom 0 (whole ++ fraction) < 2 ^ 64) :
    taken whole fraction = ⟨digitsFrom 0 (whole ++ fraction), -(fraction.length : Int)⟩ := by
  rw [digitsFrom_append] at fits ⊢
  have front := takeDigits_of_fits (Nat.lt_of_le_of_lt (le_digitsFrom _ fraction) fits)
  simp only [taken, front, takeDigits_of_fits fits, List.length_nil, Nat.add_zero, Int.natCast_zero,
    Int.zero_sub]

/-- A significand is finite. -/
theorem significand_finite {n : Nat} (fits : n < 2 ^ 64) :
    2 * (n * Magnitude.one) < Magnitude.overflow := by
  have top : 2 * (2 ^ 64 * Magnitude.one) < Magnitude.overflow := by decide +kernel
  exact Nat.lt_of_le_of_lt (Nat.mul_le_mul_left 2 (Nat.mul_le_mul_right _ (Nat.le_of_lt fits))) top

/-- Digits alone are finite up to a bound, however many of them are left off. -/
theorem magnitude?_isSome {ds : List UInt8} {n : Nat} (value : digitsFrom 0 ds = n)
    (finite : n < 2 ^ 1023) : (magnitude? ds [] 0).isSome = true := by
  have bound : 2 * (2 ^ 1023 * Magnitude.one) ≤ Magnitude.safe := by decide +kernel
  obtain ⟨_, lead⟩ := takeDigits_bounds (Nat.two_pow_pos 64) ds
  rw [value] at lead
  have exponent : (taken ds []).exponent + 0 = ((takeDigits 0 ds).2.length : Int) := by
    simp [taken, takeDigits]
  have significand : (taken ds []).significand = (takeDigits 0 ds).1 := by
    simp [taken, takeDigits]
  rw [magnitude?, exponent, significand]
  have below := Nat.le_trans lead (Nat.le_of_lt finite)
  exact Magnitude.scaled?_isSome
    (Nat.le_trans (Nat.mul_le_mul_left 2 (Nat.mul_le_mul_right _ below)) bound)

section Spelled

variable {s : Spelling} {d : Decimal} {m : Magnitude}

def spelledMagnitude? (s : Spelling) : Option Magnitude :=
  magnitude? (s.whole.map asciiByte) (s.fraction.map asciiByte) (s.exponent.getD 0)

theorem digitsFrom_spelled (gives : s.Gives d) :
    digitsFrom 0 (s.whole.map asciiByte ++ s.fraction.map asciiByte) =
      Nat.ofDigitChars 10 (s.whole ++ s.fraction) 0 := by
  rw [← List.map_append]
  exact digitsFrom_map (gives.whole.digits_append gives.fraction) 0

theorem whole_fits (gives : s.Gives d) : digitsFrom 0 (s.whole.map asciiByte) < 2 ^ 64 := by
  refine Nat.lt_of_lt_of_le (digitsFrom_lt (isDigit_map gives.whole.digits) 0) ?_
  rw [Nat.zero_add, Nat.one_mul, List.length_map]
  exact Nat.le_trans (Nat.pow_le_pow_right (by decide) gives.short) (by decide)

/-- It makes something of it, unless the nearest magnitude is one of the largest. -/
theorem spelledMagnitude?_isSome (gives : s.Gives d)
    (nearest : Magnitude.ofDecimal? d.digits d.exponent = some m) (other : m ∉ Magnitude.largest) :
    (spelledMagnitude? s).isSome = true := by
  obtain ⟨left, exponent, small, lead⟩ :=
    exists_taken (whole_fits gives) (s.fraction.map asciiByte)
  have places : (left : Int) - s.fraction.length + s.exponent.getD 0 =
      s.exponent.getD 0 - s.fraction.length + left := by omega
  rw [digitsFrom_spelled gives] at lead
  rw [List.length_map] at exponent
  rw [spelledMagnitude?, magnitude?, exponent, places]
  exact Magnitude.scaled?_isSome_of_ofDecimal? (gives.nearest.trans nearest)
    (Magnitude.below_of_not_largest other) lead (significand_finite small)

/-- With few digits and a small exponent it is the nearest magnitude. -/
theorem spelledMagnitude?_eq (gives : s.Gives d)
    (few : Nat.ofDigitChars 10 (s.whole ++ s.fraction) 0 < 2 ^ 53)
    (small : (s.exponent.getD 0 - s.fraction.length).natAbs ≤ 22) :
    spelledMagnitude? s = Magnitude.ofDecimal? d.digits d.exponent := by
  have value := digitsFrom_spelled gives
  have fits : digitsFrom 0 (s.whole.map asciiByte ++ s.fraction.map asciiByte) < 2 ^ 64 :=
    value ▸ Nat.lt_trans few (by decide)
  rw [spelledMagnitude?, magnitude?, taken_of_fits fits, value, List.length_map, Int.add_comm,
    ← Int.sub_eq_add_neg, Magnitude.scaled?_eq_ofDecimal? few small, gives.nearest]

end Spelled

end Json

def Magnitude.reread (m : Magnitude) : Magnitude :=
  match Json.readNumber false (Json.ascii (m.shortest.text .json)) with
  | .ok (.real r, _) => r.magnitude
  | _ => m

/-- A magnitude comes back where its text is read as the one nearest to it. -/
theorem Magnitude.reread_eq_self_iff (m : Magnitude) : m.reread = m ↔
    Magnitude.ofDecimal? m.shortest.digits m.shortest.exponent = some m.reread := by
  rw [m.ofDecimal?_shortest, Option.some.injEq, eq_comm]

def Real64.reread (r : Real64) : Real64 :=
  ⟨r.negative, r.magnitude.reread⟩

namespace Json

def Number.reread : Number → Number
  | .integer n fits => .integer n fits
  | .real r => .real r.reread

theorem ascii_spelled {s : Spelling} {d : Decimal} (gives : s.Gives d) :
    ascii (String.ofList s.chars) = s.chars.map asciiByte :=
  Text.Utf8.encode_ofList (ascii_of_gives gives)

/-- The largest magnitudes are read too. -/
theorem largest_read : ∀ m ∈ Magnitude.largest,
    (readNumber false (ascii (m.shortest.text .json))).isOk = true := by
  decide +kernel

/-- Whatever magnitude is written, it is read, and as what is said of it. -/
theorem spelledMagnitude?_shortest {m : Magnitude} {s : Spelling}
    (text : m.shortest.text .json = String.ofList s.chars) (gives : s.Gives m.shortest) :
    spelledMagnitude? s = some m.reread := by
  have read := readNumber_spelling false gives .nil
  rw [List.append_nil, ← ascii_spelled gives, ← text] at read
  have finite : (spelledMagnitude? s).isSome = true := by
    by_cases large : m ∈ Magnitude.largest
    · have succeeds := largest_read m large
      rw [read, realNumber] at succeeds
      cases value : spelledMagnitude? s with
      | some x => rfl
      | none =>
        rw [spelledMagnitude?] at value
        rw [value] at succeeds
        cases succeeds
    · exact spelledMagnitude?_isSome gives m.ofDecimal?_shortest large
  obtain ⟨x, value⟩ := Option.isSome_iff_exists.1 finite
  have meaning : magnitude? (s.whole.map asciiByte) (s.fraction.map asciiByte)
      (s.exponent.getD 0) = some x := value
  rw [realNumber, meaning] at read
  rw [value, Magnitude.reread, read]

/-- A number is written with a sign in front of what is read after the sign. -/
theorem Number.exists_unsigned (number : Number) : ∃ negative unsigned,
    ascii number.text = (if negative = true then [0x2d] else []) ++ unsigned ∧
    ∀ tail, EndsNumber tail →
      readNumber negative (unsigned ++ tail) = .ok (number.reread, tail) := by
  cases number with
  | integer z fits =>
    refine ⟨decide (z < 0), (Decimal.digitsOf z.natAbs).map asciiByte, ?_, ?_⟩
    · simp only [Number.text, ascii_toString, decide_eq_true_eq]
    · intro tail ends
      rw [readNumber_digitsOf z ends, ofInt?_of_fits fits]
      rfl
  | real r =>
    obtain ⟨s, text, gives⟩ := r.magnitude.exists_spelling
    have value : magnitude? (s.whole.map asciiByte) (s.fraction.map asciiByte)
        (s.exponent.getD 0) = some r.magnitude.reread := spelledMagnitude?_shortest text gives
    have shape : r.text = String.ofList (Spelling.signChars r.negative ++ s.chars) := by
      rw [Real64.text, Real64.textWith, text, String.ofList_append]
      cases r.negative <;> rfl
    refine ⟨r.negative, s.chars.map asciiByte, ?_, ?_⟩
    · rw [Number.text, shape, ascii_signed _ (ascii_of_gives gives)]
    · intro tail ends
      rw [readNumber_spelling r.negative gives ends, realNumber, value]
      rfl

/-- The text of a number is a scalar that is read with nothing left of it. -/
theorem scalar_number (number : Number) {tail : List UInt8} (ends : EndsNumber tail) :
    ∃ b rest, ascii number.text ++ tail = b :: rest ∧
      scalar b rest = .ok (.number number.reread, tail) := by
  obtain ⟨negative, unsigned, text, read⟩ := number.exists_unsigned
  have read := read tail ends
  cases negative with
  | true =>
    refine ⟨0x2d, unsigned ++ tail, by rw [text]; rfl, ?_⟩
    simp [scalar, read, Except.map]
  | false =>
    cases shape : unsigned ++ tail with
    | nil =>
      rw [shape] at read
      cases read
    | cons b rest =>
      rw [shape] at read
      refine ⟨b, rest, by rw [text, ← shape]; rfl, ?_⟩
      rw [scalar_digit (isDigit_of_readNumber read), read]
      rfl

mutual

/-- The value that is read where this one is written: its doubles are those that are read. -/
def reread : Json → Json
  | .number n => .number n.reread
  | .array items => .array (rereadItems items)
  | .object members => .object (rereadMembers members)
  | j => j

def rereadItems : List Json → List Json
  | [] => []
  | j :: items => j.reread :: rereadItems items

def rereadMembers : List (String × Json) → List (String × Json)
  | [] => []
  | (name, j) :: members => (name, j.reread) :: rereadMembers members

end

theorem rereadItems_eq (items : List Json) : rereadItems items = items.map reread := by
  induction items with
  | nil => rfl
  | cons j items ih => rw [rereadItems, ih, List.map_cons]

theorem rereadMembers_eq (members : List (String × Json)) :
    rereadMembers members = members.map fun m => (m.1, m.2.reread) := by
  induction members with
  | nil => rfl
  | cons m members ih => rw [rereadMembers, ih, List.map_cons]

mutual

theorem depth_reread : (j : Json) → j.reread.depth = j.depth
  | .null | .bool _ | .number _ | .string _ => rfl
  | .array items => congrArg (· + 1) (depthItems_reread items)
  | .object members => congrArg (· + 1) (depthMembers_reread members)

theorem depthItems_reread : (items : List Json) → depthItems (rereadItems items) = depthItems items
  | [] => rfl
  | j :: items => by
    rw [rereadItems, depthItems, depthItems, depth_reread j, depthItems_reread items]

theorem depthMembers_reread : (members : List (String × Json)) →
    depthMembers (rereadMembers members) = depthMembers members
  | [] => rfl
  | (_, j) :: members => by
    rw [rereadMembers, depthMembers, depthMembers, depth_reread j, depthMembers_reread members]

end

mutual

def doubles : Json → List Real64
  | .number (.real r) => [r]
  | .array items => doublesItems items
  | .object members => doublesMembers members
  | _ => []

def doublesItems : List Json → List Real64
  | [] => []
  | j :: items => j.doubles ++ doublesItems items

def doublesMembers : List (String × Json) → List Real64
  | [] => []
  | (_, j) :: members => j.doubles ++ doublesMembers members

end

/-- Every double in the value is read as it was written: as the one nearest to its text. -/
def Restored (j : Json) : Prop :=
  ∀ r ∈ j.doubles, r.reread = r

instance (j : Json) : Decidable j.Restored :=
  inferInstanceAs (Decidable (∀ r ∈ j.doubles, r.reread = r))

mutual

theorem reread_eq_self_iff : (j : Json) → j.reread = j ↔ j.Restored
  | .null | .bool _ | .string _ | .number (.integer _ _) | .number (.real _) => by
    simp [reread, Restored, doubles, Number.reread]
  | .array items => by
    rw [reread, array.injEq]
    exact rereadItems_eq_self_iff items
  | .object members => by
    rw [reread, object.injEq]
    exact rereadMembers_eq_self_iff members

theorem rereadItems_eq_self_iff : (items : List Json) →
    (rereadItems items = items ↔ ∀ r ∈ doublesItems items, r.reread = r)
  | [] => by simp [rereadItems, doublesItems]
  | j :: items => by
    rw [rereadItems, List.cons.injEq, reread_eq_self_iff j, rereadItems_eq_self_iff items,
      doublesItems, List.forall_mem_append, Restored]

theorem rereadMembers_eq_self_iff : (members : List (String × Json)) →
    (rereadMembers members = members ↔ ∀ r ∈ doublesMembers members, r.reread = r)
  | [] => by simp [rereadMembers, doublesMembers]
  | (name, j) :: members => by
    rw [rereadMembers, List.cons.injEq, Prod.mk.injEq, eq_self name, true_and, reread_eq_self_iff j,
      rereadMembers_eq_self_iff members, doublesMembers, List.forall_mem_append, Restored]

end

theorem member?_reread (j : Json) (name : String) :
    j.reread.member? name = (j.member? name).map reread := by
  cases j with
  | object members =>
    have lookup (members : List (String × Json)) :
        (rereadMembers members).lookup name = (members.lookup name).map reread := by
      induction members with
      | nil => rfl
      | cons m members ih =>
        rw [rereadMembers, List.lookup_cons, List.lookup_cons]
        split
        · rfl
        · exact ih
    have turned : (rereadMembers members).reverse = rereadMembers members.reverse := by
      rw [rereadMembers_eq, rereadMembers_eq, List.map_reverse]
    rw [reread, member?, turned, lookup, member?]
  | null | bool _ | number _ | string _ | array _ => rfl

theorem insertMember_reread (name : String) (j : Json) (members : List (String × Json)) :
    insertMember name j.reread (rereadMembers members) =
      rereadMembers (insertMember name j members) := by
  induction members with
  | nil => rfl
  | cons m members ih =>
    obtain ⟨other, kept⟩ := m
    rw [rereadMembers, insertMember, insertMember]
    split
    · rfl
    split
    · rfl
    · rw [ih, rereadMembers]

theorem sortMembers_reread (members : List (String × Json)) :
    sortMembers (rereadMembers members) = rereadMembers (sortMembers members) := by
  induction members with
  | nil => rfl
  | cons m members ih =>
    calc sortMembers (rereadMembers (m :: members))
        = insertMember m.1 m.2.reread (sortMembers (rereadMembers members)) := rfl
      _ = rereadMembers (sortMembers (m :: members)) := by
          rw [ih, insertMember_reread]
          rfl

mutual

theorem canonical_reread : (j : Json) → j.reread.canonical = j.canonical.reread
  | .null | .bool _ | .number _ | .string _ => rfl
  | .array items => by
    rw [reread, canonical, canonical, reread, canonicalItems_reread items]
  | .object members => by
    rw [reread, canonical, canonical, reread, canonicalMembers_reread members, sortMembers_reread]

theorem canonicalItems_reread : (items : List Json) →
    canonicalItems (rereadItems items) = rereadItems (canonicalItems items)
  | [] => rfl
  | j :: items => by
    rw [rereadItems, canonicalItems, canonicalItems, rereadItems, canonical_reread j,
      canonicalItems_reread items]

theorem canonicalMembers_reread : (members : List (String × Json)) →
    canonicalMembers (rereadMembers members) = rereadMembers (canonicalMembers members)
  | [] => rfl
  | (name, j) :: members => by
    rw [rereadMembers, canonicalMembers, canonicalMembers, rereadMembers, canonical_reread j,
      canonicalMembers_reread members]

end

/-- What is kept of a value where what is kept of this one is written and read again. -/
def Value.reread (v : Value) : Value :=
  v.json.reread.value

theorem Value.json_reread (v : Value) : v.reread.json = v.json.reread := by
  calc v.json.reread.canonical = v.json.canonical.reread := canonical_reread v.json
    _ = v.json.reread := by rw [canonical_eq v.json v.canonical]

theorem Value.ext_json {v w : Value} (same : v.json = w.json) : v = w := by
  cases v
  cases w
  cases same
  rfl

theorem Value.reread_eq_self_iff (v : Value) : v.reread = v ↔ v.json.Restored := by
  rw [← Json.reread_eq_self_iff, ← v.json_reread]
  exact ⟨congrArg Value.json, Value.ext_json⟩

theorem value_reread (j : Json) : j.reread.value = j.value.reread := by
  refine Value.ext_json ?_
  rw [Value.json_reread]
  exact canonical_reread j

def Object.reread (o : Object) : Object where
  members := rereadMembers o.members
  canonical := by
    have kept := o.value.reread.canonical
    rw [Value.json_reread] at kept
    exact kept

theorem Object.ext_members {o o' : Object} (same : o.members = o'.members) : o = o' := by
  cases o
  cases o'
  cases same
  rfl

end Json

/-- The double that a reader makes of this one, if it can be written. -/
def Binary64.reread : Binary64 → Binary64
  | .finite r => .finite r.reread
  | x => x

/-- Where the digits and the zeros that are written behind them have less than 54 bits, and the point is
shifted by at most 22 places, a magnitude is read as it was written. -/
theorem Magnitude.reread_of_few {m : Magnitude}
    (few : 10 ^ (m.shortest.exponent + 1).toNat * m.shortest.digits < 2 ^ 53)
    (small : m.shortest.exponent.natAbs ≤ 22) : m.reread = m := by
  obtain ⟨s, text, gives⟩ := m.exists_spelling
  obtain ⟨zeros, most, value, exponent⟩ := gives.worth
  have digits : 10 ^ zeros * m.shortest.digits < 2 ^ 53 := Nat.lt_of_le_of_lt
    (Nat.mul_le_mul_right _ (Nat.pow_le_pow_right (by decide) most)) few
  have places : (m.shortest.exponent - zeros).natAbs ≤ 22 := by omega
  have read := Json.spelledMagnitude?_eq gives (value ▸ digits) (exponent ▸ places)
  rw [Json.spelledMagnitude?_shortest text gives, m.ofDecimal?_shortest] at read
  exact Option.some.inj read

def Json.nearest (digits : Nat) (exponent : Int) : Json :=
  .number (.real ((Real64.ofDecimal? false digits exponent).getD ⟨false, .zero⟩))

/-- Few digits are restored; sixteen may be read as those of a neighbour, again and again. -/
example : (Json.nearest 314159 (-5)).Restored ∧
    (Json.read (Json.ascii "9.205966767552478")).toOption = some (Json.nearest 9205966767552479 (-15)) ∧
    (Json.nearest 9205966767552479 (-15)).reread = Json.nearest 920596676755248 (-14) := by
  decide +kernel

end TopicGateway
