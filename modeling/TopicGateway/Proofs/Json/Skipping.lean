import Mathlib.Data.List.DropRight
import TopicGateway.Proofs.Json.Grammar

/-! Passing over a value leaves the same input behind as reading it, where both succeed. A scalar that
is read is always passed over; of lists and objects each entry is compared in turn. -/
namespace TopicGateway.Json

-- The lemmas below open both functions, branch by branch.
attribute [local simp] skipText skipWithin

theorem skipText_unit {a b c d : UInt8} {n : Nat} (unit : hexUnit? a b c d = some n)
    (rest : List UInt8) : skipText (0x5c :: 0x75 :: a :: b :: c :: d :: rest) = skipText rest := by
  rw [skipText, unit]

theorem skipText_escape {b e : UInt8} (stands : simpleEscape? b = some e) (other : b ≠ 0x75)
    (rest : List UInt8) : skipText (0x5c :: b :: rest) = skipText rest := by
  rw [skipText]
  · rw [stands]
  · simp [other]
  · simp [other]

theorem skipText_plain {b : UInt8} (quote : b ≠ 0x22) (backslash : b ≠ 0x5c) (text : ¬b < 0x20)
    (rest : List UInt8) : skipText (b :: rest) = skipText rest := by
  rw [skipText]
  · rw [if_neg text]
  all_goals simp [quote, backslash]

/-- Two escapes that stand for one code point are passed over one by one. -/
theorem skipText_of_textBytes {seen input bytes rest : List UInt8}
    (read : textBytes seen input = .ok (bytes, rest)) : skipText input = .ok rest := by
  fun_induction textBytes seen input with
  | case2 seen rest =>
    cases read
    rfl
  | case6 seen a b c d n unit _ _ a' b' c' d' behind n' unit' _ ih =>
    rw [skipText_unit unit, skipText_unit unit', ih read]
  | case13 seen a b c d behind n unit _ _ ih =>
    rw [skipText_unit unit, ih read]
  | case15 seen b behind _ other e stands ih =>
    rw [skipText_escape stands other, ih read]
  | case19 seen b behind quote _ _ escape last text ih =>
    have backslash : b ≠ 0x5c := by
      intro same
      cases behind with
      | nil => exact last same rfl
      | cons c behind => exact escape c behind same rfl
    rw [skipText_plain quote backslash text, ih read]
  | _ => cases read

theorem skipText_of_readText {input rest : List UInt8} {s : String}
    (read : readText input = .ok (s, rest)) : skipText input = .ok rest := by
  unfold readText at read
  split at read
  · cases read
  · next bytes =>
    split at read
    · cases read
      exact skipText_of_textBytes bytes
    · cases read

theorem rest_of_exponentValue {checked : Bool} {value n : Nat} {digits rest : List UInt8}
    (read : exponentValue checked value digits = .ok (n, rest)) :
    rest = digits.dropWhile isDigit := by
  induction digits generalizing value with
  | nil =>
    cases read
    rfl
  | cons b digits ih =>
    simp only [exponentValue] at read
    split at read
    · next digit =>
      rw [List.dropWhile_cons_of_pos digit]
      split at read
      · cases read
      · exact ih read
    · next other =>
      cases read
      rw [List.dropWhile_cons_of_neg other]

theorem skipExponent_of_exponent {zero : Bool} {input rest : List UInt8} {e : Int}
    (read : exponent zero input = .ok (e, rest)) : skipExponent input = .ok rest := by
  unfold exponent at read
  split at read
  split at read
  · cases read
  next b tail signed =>
  split at read
  · next digit =>
    split at read
    · next value =>
      cases read
      have behind := rest_of_exponentValue value
      rw [List.dropWhile_cons_of_pos digit] at behind
      subst behind
      split at signed
      · cases signed
        simp [skipExponent, digit]
      · cases signed
        simp [skipExponent, digit]
      · next plus minus =>
        cases signed
        have unsigned : ¬(b = 0x2b ∨ b = 0x2d) := by
          rintro (rfl | rfl)
          · exact plus _ rfl
          · exact minus _ rfl
        simp only [skipExponent, if_neg unsigned, if_pos digit]
    · cases read
  · cases read

theorem rest_of_realNumber {negative : Bool} {whole fraction rest out : List UInt8} {e : Int}
    {n : Number} (read : realNumber negative whole fraction e rest = .ok (n, out)) : rest = out := by
  unfold realNumber at read
  split at read
  · cases read
    rfl
  · cases read

theorem rest_of_wholeNumber {negative : Bool} {digits rest out : List UInt8} {n : Number}
    (read : wholeNumber negative digits rest = .ok (n, out)) : rest = out := by
  simp only [wholeNumber] at read
  split at read
  · cases read
    rfl
  split at read
  · cases read
    rfl
  · exact rest_of_realNumber read

def skipNumberTail : List UInt8 → Except Failure (List UInt8)
  | [] => .ok []
  | b :: rest =>
    if b = 0x2e then
      match rest with
      | c :: rest' =>
        if isDigit c then
          match rest'.dropWhile isDigit with
          | d :: rest'' => if d = 0x65 ∨ d = 0x45 then skipExponent rest'' else .ok (d :: rest'')
          | [] => .ok []
        else .error ⟨.badNumber, rest'⟩
      | [] => .error ⟨.badNumber, []⟩
    else if b = 0x65 ∨ b = 0x45 then skipExponent rest
    else .ok (b :: rest)

theorem skipNumber_of_wholeDigits {input whole rest : List UInt8}
    (read : wholeDigits input = .ok (whole, rest)) : skipNumber input = skipNumberTail rest := by
  unfold wholeDigits at read
  split at read
  · cases read
  · next b tail =>
    split at read
    · next zero =>
      subst zero
      split at read
      · split at read
        · cases read
        · next c behind other =>
          cases read
          simp only [skipNumber, if_true, if_neg other]
          rfl
      · cases read
        rfl
    · next zero =>
      split at read
      · next digit =>
        cases read
        simp only [skipNumber, if_neg zero, if_pos digit]
        cases tail.dropWhile isDigit with
        | nil => rfl
        | cons c behind => rfl
      · cases read

theorem fractionDigits_eq_ok {input digits rest : List UInt8}
    (read : fractionDigits input = .ok (digits, rest)) :
    ∃ c tail, input = c :: tail ∧ isDigit c = true ∧ rest = tail.dropWhile isDigit := by
  unfold fractionDigits at read
  split at read
  · cases read
  · next c tail =>
    split at read
    · next digit =>
      cases read
      exact ⟨c, tail, rfl, digit, List.dropWhile_cons_of_pos digit⟩
    · cases read

theorem skipNumberTail_of_numberTail {negative : Bool} {whole input rest : List UInt8} {n : Number}
    (read : numberTail negative whole input = .ok (n, rest)) : skipNumberTail input = .ok rest := by
  unfold numberTail at read
  split at read
  · next tail =>
    split at read
    · cases read
    next fraction behind point =>
    obtain ⟨c, others, rfl, digit, rfl⟩ := fractionDigits_eq_ok point
    simp only [skipNumberTail, if_true, if_pos digit]
    cases behind : others.dropWhile isDigit with
    | nil =>
      simp only [behind] at read
      cases rest_of_realNumber read
      simp only
    | cons d later =>
      simp only [behind] at read
      split at read
      · next mark =>
        split at read
        · cases read
        · next power =>
          cases rest_of_realNumber read
          simp only [if_pos mark, skipExponent_of_exponent power]
      · next unmarked =>
        cases rest_of_realNumber read
        simp only [if_neg unmarked]
  · next b tail other =>
    have point : b ≠ 0x2e := by
      rintro rfl
      exact other rfl
    split at read
    · next mark =>
      split at read
      · cases read
      · next power =>
        cases rest_of_realNumber read
        simp only [skipNumberTail, if_neg point, if_pos mark, skipExponent_of_exponent power]
    · next unmarked =>
      cases rest_of_wholeNumber read
      simp only [skipNumberTail, if_neg point, if_neg unmarked]
  · cases rest_of_wholeNumber read
    rfl

theorem skipNumber_of_readNumber {negative : Bool} {input rest : List UInt8} {n : Number}
    (read : readNumber negative input = .ok (n, rest)) : skipNumber input = .ok rest := by
  unfold readNumber at read
  split at read
  · cases read
  · next whole =>
    rw [skipNumber_of_wholeDigits whole]
    exact skipNumberTail_of_numberTail read

theorem skipScalar_of_scalar {b : UInt8} {input rest : List UInt8} {j : Json}
    (read : scalar b input = .ok (j, rest)) : skipScalar b input = .ok rest := by
  cases spelt_of_scalar read with
  | null letters | true letters | false letters =>
    simp [skipScalar, letters, Except.map]
  | text read =>
    simp [skipScalar, skipText_of_readText read]
  | negative read =>
    simp [skipScalar, skipNumber_of_readNumber read]
  | unsigned first read =>
    have other (x : UInt8) (letter : isDigit x = false) : b ≠ x := by
      rintro rfl
      rw [letter] at first
      cases first
    simp [skipScalar, first, skipNumber_of_readNumber read, other 0x6e rfl, other 0x74 rfl,
      other 0x66 rfl, other 0x22 rfl, other 0x2d rfl]

variable {fuel : Nat} {opened : List Bracket} {input rest out : List UInt8}

/-- Where a bracket has been closed, the entry behind it is due next. -/
theorem nextEntry_of_closed
    (passed : (if opened.isEmpty then .ok rest else skipWithin fuel .nextEntry opened rest) =
      Except.ok out) : ∃ less, skipWithin less .nextEntry opened rest = .ok out := by
  cases opened with
  | nil => exact ⟨1, passed⟩
  | cons bracket opened => exact ⟨fuel, passed⟩

theorem skipBlank_skipBlank (input : List UInt8) : skipBlank (skipBlank input) = skipBlank input :=
  List.dropWhile_idempotent _ _

theorem skipWithin_skipBlank (passed : skipWithin fuel .value opened input = .ok out) :
    skipWithin fuel .value opened (skipBlank input) = .ok out := by
  cases fuel with
  | zero => cases passed
  | succ fuel =>
    rw [skipWithin] at passed ⊢
    rw [skipBlank_skipBlank]
    exact passed

/-- Passing over a value at the start of the input goes on with the rest. -/
def Over (input rest : List UInt8) : Prop :=
  ∀ {fuel opened out}, skipWithin fuel .value opened input = .ok out →
    ∃ less, skipWithin less .nextEntry opened rest = .ok out

/-- Passing over the entries of this bracket, where the input starts with one, goes on with the rest
behind the bracket. -/
def Inside (bracket : Bracket) (input rest : List UInt8) : Prop :=
  ∀ {fuel opened out value}, skipName bracket input = .ok value →
    skipWithin fuel .value (bracket :: opened) value = .ok out →
    ∃ less, skipWithin less .nextEntry opened rest = .ok out

variable {bracket : Bracket} {c : UInt8} {value tail behind next : List UInt8}

theorem nextEntry_of_close (close : skipBlank input = bracket.closing :: rest)
    (passed : skipWithin fuel .nextEntry (bracket :: opened) input = .ok out) :
    ∃ less, skipWithin less .nextEntry opened rest = .ok out := by
  cases fuel with
  | zero => cases passed
  | succ fuel =>
    have comma : bracket.closing ≠ 0x2c := by cases bracket <;> decide
    simp only [skipWithin, close, if_neg comma, if_true] at passed
    exact nextEntry_of_closed passed

theorem nextEntry_of_comma (comma : skipBlank input = 0x2c :: behind)
    (start : skipBlank behind = c :: next) (others : Inside bracket (c :: next) rest)
    (passed : skipWithin fuel .nextEntry (bracket :: opened) input = .ok out) :
    ∃ less, skipWithin less .nextEntry opened rest = .ok out := by
  rw [← start] at others
  cases fuel with
  | zero => cases passed
  | succ fuel =>
    simp only [skipWithin, comma, if_true] at passed
    split at passed
    · cases passed
    · next value named =>
      cases bracket with
      | list =>
        cases named
        exact others rfl (skipWithin_skipBlank passed)
      | object =>
        have blank : skipName .object (skipBlank behind) = .ok value := by
          rw [skipName, skipBlank_skipBlank]
          exact named
        exact others blank passed

theorem inside_last (bracket : Bracket) (named : skipName bracket input = .ok value)
    (item : Over value tail) (close : skipBlank tail = bracket.closing :: rest) :
    Inside bracket input rest := by
  intro fuel opened out value' named' passed
  cases named.symm.trans named'
  obtain ⟨less, passed⟩ := item passed
  exact nextEntry_of_close close passed

theorem inside_next (named : skipName bracket input = .ok value) (item : Over value tail)
    (comma : skipBlank tail = 0x2c :: behind) (start : skipBlank behind = c :: next)
    (others : Inside bracket (c :: next) rest) : Inside bracket input rest := by
  intro fuel opened out value' named' passed
  cases named.symm.trans named'
  obtain ⟨less, passed⟩ := item passed
  exact nextEntry_of_comma comma start others passed

def Bracket.opening : Bracket → UInt8
  | .list => 0x5b
  | .object => 0x7b

theorem skipWithin_opening (first : skipBlank input = bracket.opening :: tail) :
    skipWithin (fuel + 1) .value opened input =
      skipWithin fuel .firstEntry (bracket :: opened) tail := by
  cases bracket <;> simp [skipWithin, first, Bracket.opening]

theorem over_empty (bracket : Bracket) (first : skipBlank input = bracket.opening :: tail)
    (close : skipBlank tail = bracket.closing :: rest) : Over input rest := by
  intro fuel opened out passed
  cases fuel with
  | zero => cases passed
  | succ fuel =>
    rw [skipWithin_opening first] at passed
    cases fuel with
    | zero => cases passed
    | succ fuel =>
      simp only [skipWithin, close, if_true] at passed
      exact nextEntry_of_closed passed

theorem over_entries (bracket : Bracket) (first : skipBlank input = bracket.opening :: tail)
    (start : skipBlank tail = c :: next) (more : c ≠ bracket.closing)
    (inside : Inside bracket (c :: next) rest) : Over input rest := by
  intro fuel opened out passed
  cases fuel with
  | zero => cases passed
  | succ fuel =>
    rw [skipWithin_opening first] at passed
    cases fuel with
    | zero => cases passed
    | succ fuel =>
      simp only [skipWithin, start, if_neg more] at passed
      split at passed
      · cases passed
      · next value named => exact inside named passed

theorem over_scalar {b : UInt8} {j : Json} (first : skipBlank input = b :: tail)
    (read : scalar b tail = .ok (j, rest)) : Over input rest := by
  intro fuel opened out passed
  obtain ⟨_, list, object⟩ := Starts.of_scalar read
  cases fuel with
  | zero => cases passed
  | succ fuel =>
    simp only [skipWithin, first, if_neg list, if_neg object, skipScalar_of_scalar read] at passed
    exact nextEntry_of_closed passed

theorem skipName_of_memberName {name : String} (named : memberName input = .ok (name, value)) :
    skipName .object input = .ok value := by
  unfold memberName at named
  split at named
  · cases named
  · split at named
    · next quote =>
      subst quote
      split at named
      · cases named
      · next text =>
        split at named
        · cases named
        · next mark =>
          cases named
          have visible : isBlank 0x22 = false := by decide
          simp only [skipName, skipBlank_cons visible, if_true, skipText_of_readText text, mark]
    · cases named

def Piece.Passed (input rest : List UInt8) : Piece → Prop
  | .value _ => Over input rest
  | .items _ => Inside .list input rest
  | .members _ => Inside .object input rest

theorem Reads.passed {depth : Nat} {piece : Piece} (reads : Reads depth input piece rest) :
    piece.Passed input rest := by
  induction reads with
  | scalar first read => exact over_scalar first read
  | noItems first close => exact over_empty .list first close
  | list first start more _ inside => exact over_entries .list first start more inside
  | noMembers first close => exact over_empty .object first close
  | object first start more _ inside => exact over_entries .object first start more inside
  | lastItem _ close item => exact inside_last .list rfl item close
  | nextItem _ comma start _ _ item others => exact inside_next rfl item comma start others
  | lastMember named _ close item =>
    exact inside_last .object (skipName_of_memberName named) item close
  | nextMember named _ comma start _ _ item others =>
    exact inside_next (skipName_of_memberName named) item comma start others

/-- What stands behind a value does not depend on whether it is read or passed over. -/
theorem Reads.rest_of_skipValue {depth : Nat} {j : Json}
    (reads : Reads depth input (.value j) rest) (skipped : skipValue input = .ok out) :
    out = rest := by
  obtain ⟨less, passed⟩ : ∃ less, skipWithin less .nextEntry [] rest = .ok out :=
    reads.passed skipped
  cases less with
  | zero => cases passed
  | succ less =>
    cases passed
    rfl

end TopicGateway.Json
