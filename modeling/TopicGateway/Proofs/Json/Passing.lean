import TopicGateway.Proofs.Json.Skipping

/-! Every value that is read uses up input, so the count of steps that passing over a value is given
is enough for each that can be read. -/
namespace TopicGateway.Json

variable {input rest tail behind next value : List UInt8} {b c : UInt8}

theorem length_skipBlank_le (input : List UInt8) : (skipBlank input).length ≤ input.length :=
  (List.dropWhile_sublist _).length_le

theorem length_of_skipBlank (found : skipBlank input = b :: rest) : rest.length < input.length := by
  have shorter := length_skipBlank_le input
  rw [found] at shorter
  exact shorter

theorem length_word {α : Type} {meaning a : α} {letters : List UInt8}
    (spelt : word meaning letters input = .ok (a, rest)) : rest.length ≤ input.length := by
  induction letters generalizing input with
  | nil =>
    cases spelt
    exact Nat.le_refl _
  | cons letter letters ih =>
    cases input with
    | nil => cases spelt
    | cons b input =>
      rw [word] at spelt
      split at spelt
      · exact Nat.le_succ_of_le (ih spelt)
      · cases spelt

theorem length_skipText (passed : skipText input = .ok rest) : rest.length < input.length := by
  fun_induction skipText input with
  | case2 rest =>
    cases passed
    exact Nat.lt_succ_self _
  | case4 a b c d behind n unit ih =>
    have shorter := ih passed
    simp only [List.length_cons]
    omega
  | case6 b behind _ _ e stands ih =>
    have shorter := ih passed
    simp only [List.length_cons]
    omega
  | case10 b behind _ _ _ _ _ text ih => exact Nat.lt_succ_of_lt (ih passed)
  | _ => cases passed

theorem length_dropDigits_le (input : List UInt8) :
    (input.dropWhile isDigit).length ≤ input.length :=
  (List.dropWhile_sublist _).length_le

theorem length_skipExponent (passed : skipExponent input = .ok rest) :
    rest.length ≤ input.length := by
  simp only [skipExponent] at passed
  split at passed
  · cases passed
  next c digits signed =>
  split at passed
  · cases passed
    have shorter := length_dropDigits_le digits
    have inside : digits.length < input.length := by
      split at signed
      · split at signed
        all_goals
          rw [signed]
          simp only [List.length_cons]
          omega
      · cases signed
    omega
  · cases passed

theorem length_skipNumberTail (passed : skipNumberTail input = .ok rest) :
    rest.length ≤ input.length := by
  unfold skipNumberTail at passed
  split at passed
  · cases passed
    exact Nat.le_refl _
  next b behind =>
  split at passed
  · split at passed
    · next c digits =>
      have shorter := length_dropDigits_le digits
      split at passed
      · split at passed
        · next mark after left =>
          rw [left, List.length_cons] at shorter
          split at passed
          · have power := length_skipExponent passed
            simp only [List.length_cons]
            omega
          · cases passed
            simp only [List.length_cons]
            omega
        · cases passed
          exact Nat.zero_le _
      · cases passed
    · cases passed
  split at passed
  · exact Nat.le_succ_of_le (length_skipExponent passed)
  · cases passed
    exact Nat.le_refl _

theorem length_wholeDigits {digits : List UInt8} (read : wholeDigits input = .ok (digits, rest)) :
    rest.length < input.length := by
  unfold wholeDigits at read
  split at read
  · cases read
  next b behind =>
  split at read
  · split at read
    · split at read
      · cases read
      · cases read
        exact Nat.lt_succ_self _
    · cases read
      exact Nat.lt_succ_self _
  split at read
  · cases read
    exact Nat.lt_succ_of_le (length_dropDigits_le behind)
  · cases read

theorem length_readNumber {negative : Bool} {n : Number}
    (read : readNumber negative input = .ok (n, rest)) : rest.length < input.length := by
  unfold readNumber at read
  split at read
  · cases read
  · next whole digits =>
    exact Nat.lt_of_le_of_lt (length_skipNumberTail (skipNumberTail_of_numberTail read))
      (length_wholeDigits digits)

theorem length_scalar {j : Json} (read : scalar b input = .ok (j, rest)) :
    rest.length ≤ input.length := by
  cases spelt_of_scalar read with
  | null letters | true letters | false letters => exact length_word letters
  | text read => exact Nat.le_of_lt (length_skipText (skipText_of_readText read))
  | negative read => exact Nat.le_of_lt (length_readNumber read)
  | unsigned _ read => exact Nat.le_of_lt_succ (length_readNumber read)

theorem length_colon (passed : colon input = .ok rest) : rest.length < input.length := by
  unfold colon at passed
  split at passed
  · cases passed
  next b behind found =>
  split at passed
  · cases passed
    exact length_of_skipBlank found
  · cases passed

theorem length_memberName {name : String} (named : memberName input = .ok (name, rest)) :
    rest.length < input.length := by
  unfold memberName at named
  split at named
  · cases named
  next b behind =>
  split at named
  · split at named
    · cases named
    next text =>
    split at named
    · cases named
    · next mark =>
      cases named
      have name := length_skipText (skipText_of_readText text)
      have value := length_colon mark
      rw [List.length_cons]
      omega
  · cases named

theorem Reads.length_lt {depth : Nat} {piece : Piece} (reads : Reads depth input piece rest) :
    rest.length < input.length := by
  induction reads with
  | scalar first read => exact Nat.lt_of_le_of_lt (length_scalar read) (length_of_skipBlank first)
  | noItems bracket close | noMembers bracket close =>
    exact Nat.lt_trans (length_of_skipBlank close) (length_of_skipBlank bracket)
  | list bracket start _ _ inside | object bracket start _ _ inside =>
    have behind := length_of_skipBlank bracket
    have first := length_of_skipBlank start
    rw [List.length_cons] at inside
    omega
  | lastItem _ close item => exact Nat.lt_trans (length_of_skipBlank close) item
  | nextItem _ comma start _ _ item others =>
    have behind := length_of_skipBlank comma
    have first := length_of_skipBlank start
    rw [List.length_cons] at others
    omega
  | lastMember named _ close item =>
    exact Nat.lt_trans (length_of_skipBlank close) (Nat.lt_trans item (length_memberName named))
  | nextMember named _ comma start _ _ item others =>
    have name := length_memberName named
    have behind := length_of_skipBlank comma
    have first := length_of_skipBlank start
    rw [List.length_cons] at others
    omega

/-- What is done where an entry has been passed over. -/
def afterEntry (fuel : Nat) (opened : List Bracket) (rest : List UInt8) :
    Except Failure (List UInt8) :=
  if opened.isEmpty then .ok rest else skipWithin fuel .nextEntry opened rest

/-- Passing over a value at the start of the input takes at least one step and no more than there are,
and goes on with the rest. -/
def Crosses (input rest : List UInt8) : Prop :=
  ∃ used, used + 1 + 2 * rest.length ≤ 2 * input.length ∧ ∀ fuel opened,
    skipWithin (fuel + used + 1) .value opened input = afterEntry fuel opened rest

/-- The same of passing over the entries of this bracket, from the one at the start of the input up to
the closing bracket. -/
def CrossesInside (bracket : Bracket) (input rest : List UInt8) : Prop :=
  ∃ value used, skipName bracket input = .ok value ∧
    used + 1 + 2 * rest.length ≤ 2 * input.length ∧ ∀ fuel opened,
      skipWithin (fuel + used + 1) .value (bracket :: opened) value = afterEntry fuel opened rest

theorem crosses_scalar {j : Json} (first : skipBlank input = b :: tail)
    (read : scalar b tail = .ok (j, rest)) : Crosses input rest := by
  obtain ⟨_, list, object⟩ := Starts.of_scalar read
  have shorter := length_scalar read
  have inside := length_of_skipBlank first
  refine ⟨0, by omega, fun fuel opened => ?_⟩
  simp only [skipWithin, first, if_neg list, if_neg object, skipScalar_of_scalar read]
  rfl

theorem crosses_empty (bracket : Bracket) (first : skipBlank input = bracket.opening :: tail)
    (close : skipBlank tail = bracket.closing :: rest) : Crosses input rest := by
  have behind := length_of_skipBlank first
  have shorter := length_of_skipBlank close
  refine ⟨1, by omega, fun fuel opened => ?_⟩
  rw [skipWithin_opening first]
  simp only [skipWithin, close, if_true]
  rfl

theorem crosses_entries (bracket : Bracket) (first : skipBlank input = bracket.opening :: tail)
    (start : skipBlank tail = c :: next) (more : c ≠ bracket.closing)
    (inside : CrossesInside bracket (c :: next) rest) : Crosses input rest := by
  obtain ⟨value, used, named, enough, passed⟩ := inside
  have behind := length_of_skipBlank first
  have shorter := length_of_skipBlank start
  rw [List.length_cons] at enough
  refine ⟨used + 2, by omega, fun fuel opened => ?_⟩
  rw [skipWithin_opening first]
  simp only [skipWithin, start, if_neg more, named]
  exact passed fuel opened

variable {bracket : Bracket}

theorem nextEntry_close (close : skipBlank input = bracket.closing :: rest) (fuel : Nat)
    (opened : List Bracket) :
    skipWithin (fuel + 1) .nextEntry (bracket :: opened) input = afterEntry fuel opened rest := by
  have comma : bracket.closing ≠ 0x2c := by cases bracket <;> decide
  simp only [skipWithin, close, if_neg comma, if_true]
  rfl

theorem nextEntry_of_comma_eq (comma : skipBlank input = 0x2c :: behind) (fuel : Nat)
    (opened : List Bracket) : skipWithin (fuel + 1) .nextEntry (bracket :: opened) input =
      (skipName bracket behind).bind (skipWithin fuel .value (bracket :: opened)) := by
  simp only [skipWithin, comma, if_true]
  cases skipName bracket behind <;> rfl

theorem nextEntry_comma (comma : skipBlank input = 0x2c :: behind)
    (start : skipBlank behind = c :: next) (named : skipName bracket (c :: next) = .ok value)
    (fuel : Nat) (opened : List Bracket) :
    skipWithin (fuel + 2) .nextEntry (bracket :: opened) input =
      skipWithin (fuel + 1) .value (bracket :: opened) value := by
  rw [nextEntry_of_comma_eq comma]
  rw [← start] at named
  cases bracket with
  | list =>
    cases named
    rw [skipName, Except.bind, skipWithin, skipWithin, skipBlank_skipBlank]
  | object =>
    rw [skipName, skipBlank_skipBlank] at named
    rw [skipName, named]
    rfl

theorem crossesInside_last (bracket : Bracket) (named : skipName bracket input = .ok value)
    (shorter : value.length ≤ input.length) (item : Crosses value tail)
    (close : skipBlank tail = bracket.closing :: rest) : CrossesInside bracket input rest := by
  obtain ⟨used, enough, passed⟩ := item
  have behind := length_of_skipBlank close
  refine ⟨value, used + 1, named, by omega, fun fuel opened => ?_⟩
  have steps : fuel + (used + 1) + 1 = fuel + 1 + used + 1 := by omega
  rw [steps, passed]
  exact nextEntry_close close fuel opened

theorem crossesInside_next (named : skipName bracket input = .ok value)
    (shorter : value.length ≤ input.length) (item : Crosses value tail)
    (comma : skipBlank tail = 0x2c :: behind) (start : skipBlank behind = c :: next)
    (others : CrossesInside bracket (c :: next) rest) : CrossesInside bracket input rest := by
  obtain ⟨used, enough, passed⟩ := item
  obtain ⟨value', later, named', enough', passed'⟩ := others
  have after := length_of_skipBlank comma
  have first := length_of_skipBlank start
  rw [List.length_cons] at enough'
  refine ⟨value, later + 2 + used, named, by omega, fun fuel opened => ?_⟩
  have steps : fuel + (later + 2 + used) + 1 = fuel + later + 2 + used + 1 := by omega
  rw [steps, passed]
  exact (nextEntry_comma comma start named' (fuel + later) opened).trans (passed' fuel opened)

/-- What passing over the piece comes to, with enough steps. -/
def Piece.Crossed (input rest : List UInt8) : Piece → Prop
  | .value _ => Crosses input rest
  | .items _ => CrossesInside .list input rest
  | .members _ => CrossesInside .object input rest

theorem Reads.crossed {depth : Nat} {piece : Piece} (reads : Reads depth input piece rest) :
    piece.Crossed input rest := by
  induction reads with
  | scalar first read => exact crosses_scalar first read
  | noItems first close => exact crosses_empty .list first close
  | list first start more _ inside => exact crosses_entries .list first start more inside
  | noMembers first close => exact crosses_empty .object first close
  | object first start more _ inside => exact crosses_entries .object first start more inside
  | lastItem _ close item => exact crossesInside_last .list rfl (Nat.le_refl _) item close
  | nextItem _ comma start _ _ item others =>
    exact crossesInside_next rfl (Nat.le_refl _) item comma start others
  | lastMember named _ close item =>
    exact crossesInside_last .object (skipName_of_memberName named)
      (Nat.le_of_lt (length_memberName named)) item close
  | nextMember named _ comma start _ _ item others =>
    exact crossesInside_next (skipName_of_memberName named)
      (Nat.le_of_lt (length_memberName named)) item comma start others

/-- Every value that can be read, in however many levels, can be passed over. -/
theorem Reads.skipValue_eq {depth : Nat} {j : Json} (reads : Reads depth input (.value j) rest) :
    skipValue input = .ok rest := by
  obtain ⟨used, enough, passed⟩ : Crosses input rest := reads.crossed
  obtain ⟨fuel, count⟩ := Nat.exists_eq_add_of_le' (m := used + 1) (n := steps input)
    (by rw [steps]; omega)
  rw [skipValue, count, ← Nat.add_assoc, passed]
  rfl

end TopicGateway.Json
