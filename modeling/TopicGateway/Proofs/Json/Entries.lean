import TopicGateway.Proofs.Json.RoundTrip
import TopicGateway.Proofs.Json.Skipping

/-! A value is the same wherever its text stands. What follows the text changes nothing unless it
could go on with a number, and neither does the room for more levels; so an object that is put
together from texts is read as the object of their values, if it is read at all. -/
namespace TopicGateway.Json

variable {input rest : List UInt8}

theorem skipBlank_followed {b : UInt8} (found : skipBlank input = b :: rest) (tail : List UInt8) :
    skipBlank (input ++ tail) = b :: (rest ++ tail) := by
  rw [skipBlank] at found ⊢
  rw [List.dropWhile_append, found]
  rfl

theorem word_followed {α : Type} {meaning a : α} {letters : List UInt8}
    (spelt : word meaning letters input = .ok (a, rest)) (tail : List UInt8) :
    word meaning letters (input ++ tail) = .ok (a, rest ++ tail) := by
  induction letters generalizing input with
  | nil =>
    cases spelt
    rfl
  | cons letter letters ih =>
    cases input with
    | nil => cases spelt
    | cons b input =>
      rw [List.cons_append, word]
      rw [word] at spelt
      split at spelt
      · next same =>
        rw [if_pos same]
        exact ih spelt
      · cases spelt

theorem textBytes_unit {a b c d : UInt8} {n : Nat} (unit : hexUnit? a b c d = some n)
    (trailing : isTrailing n = false) (leading : isLeading n = false) (seen rest : List UInt8) :
    textBytes seen (0x5c :: 0x75 :: a :: b :: c :: d :: rest) =
      textBytes (utf8Reversed n ++ seen) rest := by
  simp only [textBytes, unit, trailing, leading, Bool.false_eq_true, ↓reduceIte]

theorem textBytes_pair {a b c d a' b' c' d' : UInt8} {n n' : Nat}
    (unit : hexUnit? a b c d = some n) (trailing : isTrailing n = false)
    (leading : isLeading n = true) (unit' : hexUnit? a' b' c' d' = some n')
    (trailing' : isTrailing n' = true) (seen rest : List UInt8) :
    textBytes seen (0x5c :: 0x75 :: a :: b :: c :: d :: 0x5c :: 0x75 :: a' :: b' :: c' :: d' :: rest) =
      textBytes (utf8Reversed (pairValue n n') ++ seen) rest := by
  simp only [textBytes, unit, trailing, leading, unit', trailing', Bool.false_eq_true, ↓reduceIte]

theorem textBytes_followed {seen bytes : List UInt8}
    (read : textBytes seen input = .ok (bytes, rest)) (tail : List UInt8) :
    textBytes seen (input ++ tail) = .ok (bytes, rest ++ tail) := by
  fun_induction textBytes seen input with
  | case2 seen rest =>
    cases read
    rfl
  | case6 seen a b c d n unit trailing leading a' b' c' d' behind n' unit' trailing' ih =>
    simp only [List.cons_append]
    rw [textBytes_pair unit (by simpa using trailing) leading unit' trailing', ih read]
  | case13 seen a b c d behind n unit trailing leading ih =>
    simp only [List.cons_append]
    rw [textBytes_unit unit (by simpa using trailing) (by simpa using leading), ih read]
  | case15 seen b behind _ other e stands ih =>
    simp only [List.cons_append]
    rw [textBytes_escape stands other, ih read]
  | case19 seen b behind quote _ _ escape last text ih =>
    have backslash : b ≠ 0x5c := by
      intro same
      cases behind with
      | nil => exact last same rfl
      | cons c behind => exact escape c behind same rfl
    rw [List.cons_append, textBytes_plain quote backslash text, ih read]
  | _ => cases read

theorem readText_followed {s : String} (read : readText input = .ok (s, rest))
    (tail : List UInt8) : readText (input ++ tail) = .ok (s, rest ++ tail) := by
  unfold readText at read
  split at read
  · cases read
  · next bytes behind whole =>
    split at read
    · next decoded =>
      cases read
      simp only [readText, textBytes_followed whole, decoded]
    · cases read

theorem colon_followed (read : colon input = .ok rest) (tail : List UInt8) :
    colon (input ++ tail) = .ok (rest ++ tail) := by
  unfold colon at read
  split at read
  · cases read
  · next b behind found =>
    split at read
    · next mark =>
      cases read
      simp only [colon, skipBlank_followed found, if_pos mark]
    · cases read

theorem memberName_followed {name : String} (read : memberName input = .ok (name, rest))
    (tail : List UInt8) : memberName (input ++ tail) = .ok (name, rest ++ tail) := by
  cases input with
  | nil => cases read
  | cons b input =>
    rw [memberName] at read
    split at read
    · next quote =>
      split at read
      · cases read
      · next text =>
        split at read
        · cases read
        · next mark =>
          cases read
          simp only [List.cons_append, memberName, if_pos quote, readText_followed text,
            colon_followed mark]
    · cases read

section Numbers

variable {tail : List UInt8}

theorem takeWhile_followed (ends : EndsDigits tail) (input : List UInt8) :
    (input ++ tail).takeWhile isDigit = input.takeWhile isDigit := by
  induction input with
  | nil => exact takeWhile_digits (fun _ none => nomatch none) ends
  | cons b input ih => rw [List.cons_append, List.takeWhile_cons, List.takeWhile_cons, ih]

theorem dropWhile_followed (ends : EndsDigits tail) (input : List UInt8) :
    (input ++ tail).dropWhile isDigit = input.dropWhile isDigit ++ tail := by
  induction input with
  | nil => exact dropWhile_digits (fun _ none => nomatch none) ends
  | cons b input ih =>
    rw [List.cons_append, List.dropWhile_cons, List.dropWhile_cons, ih]
    split <;> rfl

theorem wholeDigits_followed {digits : List UInt8} (read : wholeDigits input = .ok (digits, rest))
    (ends : EndsDigits tail) : wholeDigits (input ++ tail) = .ok (digits, rest ++ tail) := by
  unfold wholeDigits at read
  split at read
  · cases read
  · split at read
    · next zero =>
      subst zero
      split at read
      · split at read
        · cases read
        · next other =>
          cases read
          simp [wholeDigits, other]
      · cases read
        cases tail with
        | nil => rfl
        | cons c tail => simp [wholeDigits, ends c rfl]
    · next zero =>
      split at read
      · next digit =>
        cases read
        simp only [List.cons_append, wholeDigits, if_neg zero, if_pos digit,
          takeWhile_followed ends, dropWhile_followed ends]
      · cases read

theorem fractionDigits_followed {digits : List UInt8}
    (read : fractionDigits input = .ok (digits, rest)) (ends : EndsDigits tail) :
    fractionDigits (input ++ tail) = .ok (digits, rest ++ tail) := by
  cases input with
  | nil => cases read
  | cons b input =>
    rw [fractionDigits] at read
    split at read
    · next digit =>
      cases read
      rw [List.cons_append, fractionDigits, if_pos digit, ← List.cons_append,
        takeWhile_followed ends, dropWhile_followed ends]
    · cases read

theorem exponentValue_followed {checked : Bool} {start n : Nat}
    (read : exponentValue checked start input = .ok (n, rest)) (ends : EndsDigits tail) :
    exponentValue checked start (input ++ tail) = .ok (n, rest ++ tail) := by
  induction input generalizing start with
  | nil =>
    cases read
    cases tail with
    | nil => rfl
    | cons c tail => simp [exponentValue, ends c rfl]
  | cons b input ih =>
    simp only [List.cons_append, exponentValue] at read ⊢
    split at read
    · next digit =>
      rw [if_pos digit]
      split at read
      · cases read
      · next within =>
        rw [if_neg within]
        exact ih read
    · next other =>
      cases read
      rw [if_neg other]
      rfl

theorem exponent_followed {zero : Bool} {e : Int} (read : exponent zero input = .ok (e, rest))
    (ends : EndsDigits tail) : exponent zero (input ++ tail) = .ok (e, rest ++ tail) := by
  unfold exponent at read
  split at read
  split at read
  · cases read
  next b behind signed =>
  split at read
  · next digit =>
    split at read
    · next amount =>
      cases read
      have followed := exponentValue_followed amount ends
      rw [List.cons_append] at followed
      split at signed
      · cases signed
        simp only [List.cons_append, exponent, if_pos digit, followed]
      · cases signed
        simp only [List.cons_append, exponent, if_pos digit, followed]
      · next plus minus =>
        cases signed
        have noPlus : b ≠ 0x2b := fun same => plus _ (congrArg (· :: behind) same)
        have noMinus : b ≠ 0x2d := fun same => minus _ (congrArg (· :: behind) same)
        rw [Bool.not_false, Bool.and_true] at followed
        simp [exponent, noPlus, noMinus, digit, followed]
    · cases read
  · cases read

theorem realNumber_followed {negative : Bool} {whole fraction : List UInt8} {e : Int} {n : Number}
    (read : realNumber negative whole fraction e input = .ok (n, rest)) (tail : List UInt8) :
    realNumber negative whole fraction e (input ++ tail) = .ok (n, rest ++ tail) := by
  unfold realNumber at read ⊢
  split at read
  · cases read
    rfl
  · cases read

theorem wholeNumber_followed {negative : Bool} {digits : List UInt8} {n : Number}
    (read : wholeNumber negative digits input = .ok (n, rest)) (tail : List UInt8) :
    wholeNumber negative digits (input ++ tail) = .ok (n, rest ++ tail) := by
  simp only [wholeNumber] at read ⊢
  split at read
  · next zero =>
    cases read
    rw [if_pos zero]
  · next other =>
    rw [if_neg other]
    split at read
    · next fits =>
      cases read
      rw [dif_pos fits]
    · next outside =>
      rw [dif_neg outside]
      exact realNumber_followed read tail

theorem numberTail_followed {negative : Bool} {whole : List UInt8} {n : Number}
    (read : numberTail negative whole input = .ok (n, rest)) (ends : EndsNumber tail) :
    numberTail negative whole (input ++ tail) = .ok (n, rest ++ tail) := by
  unfold numberTail at read
  split at read
  · next behind =>
    split at read
    · cases read
    next fraction after point =>
    have followed := fractionDigits_followed point ends.endsDigits
    simp only [List.cons_append, numberTail, followed]
    cases after with
    | nil =>
      have whole := realNumber_followed read tail
      cases tail with
      | nil => exact whole
      | cons c tail =>
        obtain ⟨_, _, lower, upper⟩ := ends c rfl
        simp only [List.nil_append, lower, upper, or_self, if_false]
        exact whole
    | cons c after =>
      dsimp only at read
      split at read
      · next mark =>
        split at read
        · cases read
        · next power =>
          simp only [List.cons_append, if_pos mark, exponent_followed power ends.endsDigits]
          exact realNumber_followed read tail
      · next unmarked =>
        simp only [List.cons_append, if_neg unmarked]
        exact realNumber_followed read tail
  · next b behind other =>
    have point : b ≠ 0x2e := by
      rintro rfl
      exact other rfl
    split at read
    · next mark =>
      split at read
      · cases read
      · next power =>
        simp only [List.cons_append, numberTail, if_pos mark,
          exponent_followed power ends.endsDigits]
        exact realNumber_followed read tail
    · next unmarked =>
      simp only [List.cons_append, numberTail, if_neg unmarked]
      exact wholeNumber_followed read tail
  · have whole := wholeNumber_followed read tail
    cases tail with
    | nil => exact whole
    | cons c tail =>
      obtain ⟨_, _, lower, upper⟩ := ends c rfl
      have unmarked : ¬(c = 0x65 ∨ c = 0x45) := not_or.2 ⟨lower, upper⟩
      simp only [List.nil_append, numberTail, if_neg unmarked]
      exact whole

theorem readNumber_followed {negative : Bool} {n : Number}
    (read : readNumber negative input = .ok (n, rest)) (ends : EndsNumber tail) :
    readNumber negative (input ++ tail) = .ok (n, rest ++ tail) := by
  unfold readNumber at read
  split at read
  · cases read
  · next digits =>
    simp only [readNumber, wholeDigits_followed digits ends.endsDigits]
    exact numberTail_followed read ends

end Numbers

theorem scalar_followed {b : UInt8} {j : Json} {tail : List UInt8}
    (read : scalar b input = .ok (j, rest)) (ends : EndsNumber tail) :
    scalar b (input ++ tail) = .ok (j, rest ++ tail) := by
  unfold scalar at read ⊢
  split at read
  · next letter =>
    rw [if_pos letter]
    exact word_followed read tail
  next noNull =>
  rw [if_neg noNull]
  split at read
  · next letter =>
    rw [if_pos letter]
    exact word_followed read tail
  next noTrue =>
  rw [if_neg noTrue]
  split at read
  · next letter =>
    rw [if_pos letter]
    exact word_followed read tail
  next noFalse =>
  rw [if_neg noFalse]
  split at read
  · next quote =>
    obtain ⟨s, text, rfl⟩ := eq_of_map read
    rw [if_pos quote, readText_followed text]
    rfl
  next noText =>
  rw [if_neg noText]
  split at read
  · next minus =>
    obtain ⟨n, number, rfl⟩ := eq_of_map read
    rw [if_pos minus, readNumber_followed number ends]
    rfl
  next noMinus =>
  rw [if_neg noMinus]
  split at read
  · next digit =>
    obtain ⟨n, number, rfl⟩ := eq_of_map read
    rw [if_pos digit, ← List.cons_append, readNumber_followed number ends]
    rfl
  · cases read

theorem Reads.followed {depth : Nat} {piece : Piece} {tail : List UInt8}
    (reads : Reads depth input piece rest) (ends : EndsNumber tail) :
    Reads depth (input ++ tail) piece (rest ++ tail) := by
  induction reads with
  | scalar first read =>
    exact .scalar (skipBlank_followed first tail) (scalar_followed read ends)
  | noItems bracket close =>
    exact .noItems (skipBlank_followed bracket tail) (skipBlank_followed close tail)
  | noMembers bracket close =>
    exact .noMembers (skipBlank_followed bracket tail) (skipBlank_followed close tail)
  | list bracket start more _ inside =>
    exact .list (skipBlank_followed bracket tail) (skipBlank_followed start tail) more inside
  | object bracket start more _ inside =>
    exact .object (skipBlank_followed bracket tail) (skipBlank_followed start tail) more inside
  | lastItem _ close item => exact .lastItem item (skipBlank_followed close tail)
  | nextItem _ comma start more _ item others =>
    exact .nextItem item (skipBlank_followed comma tail) (skipBlank_followed start tail) more others
  | lastMember named _ close item =>
    exact .lastMember (memberName_followed named tail) item (skipBlank_followed close tail)
  | nextMember named _ comma start more _ item others =>
    exact .nextMember (memberName_followed named tail) item (skipBlank_followed comma tail)
      (skipBlank_followed start tail) more others

theorem Reads.deeper {depth levels : Nat} {piece : Piece} (reads : Reads depth input piece rest)
    (enough : depth ≤ levels) : Reads levels input piece rest := by
  induction reads generalizing levels with
  | scalar first read => exact .scalar first read
  | noItems bracket close =>
    obtain ⟨above, rfl⟩ := Nat.exists_eq_add_of_le' enough
    exact .noItems bracket close
  | noMembers bracket close =>
    obtain ⟨above, rfl⟩ := Nat.exists_eq_add_of_le' enough
    exact .noMembers bracket close
  | list bracket start more _ inside =>
    obtain ⟨above, rfl⟩ := Nat.exists_eq_add_of_le' enough
    exact .list bracket start more (inside (Nat.le_add_left ..))
  | object bracket start more _ inside =>
    obtain ⟨above, rfl⟩ := Nat.exists_eq_add_of_le' enough
    exact .object bracket start more (inside (Nat.le_add_left ..))
  | lastItem _ close item => exact .lastItem (item enough) close
  | nextItem _ comma start more _ item others =>
    exact .nextItem (item enough) comma start more (others enough)
  | lastMember named _ close item => exact .lastMember named (item enough) close
  | nextMember named _ comma start more _ item others =>
    exact .nextMember named (item enough) comma start more (others enough)

/-- Blanks in front of a value do not matter. -/
theorem Reads.of_skipBlank {depth : Nat} {other : List UInt8} {j : Json}
    (reads : Reads depth input (.value j) rest) (same : skipBlank input = skipBlank other) :
    Reads depth other (.value j) rest := by
  cases reads with
  | scalar first read => exact .scalar (same.symm.trans first) read
  | noItems bracket close => exact .noItems (same.symm.trans bracket) close
  | noMembers bracket close => exact .noMembers (same.symm.trans bracket) close
  | list bracket start more inside => exact .list (same.symm.trans bracket) start more inside
  | object bracket start more inside => exact .object (same.symm.trans bracket) start more inside

theorem onlyBlankLeft_eq_ok {α : Type} {answer : Answer α} {a : α}
    (read : onlyBlankLeft answer = .ok a) : ∃ rest, answer = .ok (a, rest) ∧ skipBlank rest = [] := by
  unfold onlyBlankLeft at read
  split at read
  · cases read
  · split at read
    · next blank =>
      cases read
      exact ⟨_, rfl, blank⟩
    · cases read

theorem read_eq_ok {j : Json} (read : Json.read input = .ok j) :
    ∃ rest, Reads deepest input (.value j) rest ∧ skipBlank rest = [] := by
  obtain ⟨rest, answer, blank⟩ := onlyBlankLeft_eq_ok read
  exact ⟨rest, reads_of_readValue answer, blank⟩

/-- A text that is read alone is read as the same value, if at all, in front of something that does
not go on with a number. -/
theorem Reads.of_alone {depth : Nat} {text tail : List UInt8} {j k : Json}
    (alone : Json.read text = .ok j) (ends : EndsNumber tail)
    (reads : Reads depth (text ++ tail) (.value k) rest) :
    k = j ∧ skipBlank rest = skipBlank tail := by
  obtain ⟨blank, whole, silent⟩ := read_eq_ok alone
  have both := (whole.followed ends).deeper (Nat.le_max_left deepest depth)
  obtain ⟨rfl, rfl⟩ := (reads.deeper (Nat.le_max_right deepest depth)).unique both
  refine ⟨rfl, ?_⟩
  rw [skipBlank] at silent ⊢
  rw [List.dropWhile_append, silent]
  rfl

/-- A member as it stands in an object: its name with the colon, and the text of its value, with blanks
around them. -/
structure Entry where
  before : List UInt8
  label : List UInt8
  between : List UInt8
  text : List UInt8
  behind : List UInt8
  name : String
  value : Json
  blank : ∀ b ∈ before ++ (between ++ behind), isBlank b = true
  named : ∀ tail, memberName (label ++ tail) = .ok (name, tail)
  alone : Json.read text = .ok value

namespace Entry

def ofText (before : List UInt8) (name : String) (between text : List UInt8) (value : Json)
    (alone : Json.read text = .ok value)
    (blank : (before ++ between).all isBlank = true) : Entry where
  before := before
  label := writeString name [] ++ [0x3a]
  between := between
  text := text
  behind := []
  name := name
  value := value
  blank := by
    rw [List.append_nil]
    exact List.all_eq_true.1 blank
  named := fun tail => by
    rw [List.append_assoc, ← writeString_append]
    exact memberName_writeString name tail
  alone := alone

def member (e : Entry) : String × Json :=
  (e.name, e.value)

def bytes (e : Entry) (tail : List UInt8) : List UInt8 :=
  e.before ++ (e.label ++ (e.between ++ (e.text ++ (e.behind ++ tail))))

/-- What stands behind the opening brace of an object with these members. -/
def objectTail : List Entry → List UInt8
  | [] => [0x7d]
  | [e] => e.bytes [0x7d]
  | e :: entries => e.bytes (0x2c :: objectTail entries)

def objectText (entries : List Entry) : List UInt8 :=
  0x7b :: objectTail entries

variable {depth : Nat} {members : List (String × Json)}

theorem label_eq (e : Entry) : ∃ letters, e.label = 0x22 :: letters := by
  have named := e.named []
  rw [List.append_nil] at named
  unfold memberName at named
  split at named
  · cases named
  · next letters label =>
    split at named
    · next quote =>
      rw [label, quote]
      exact ⟨letters, rfl⟩
    · cases named

theorem notNumber_of_blank {b : UInt8} (blank : isBlank b = true) :
    isDigit b = false ∧ b ≠ 0x2e ∧ b ≠ 0x65 ∧ b ≠ 0x45 := by
  simp only [isBlank, Bool.or_eq_true, beq_iff_eq] at blank
  rcases blank with ((rfl | rfl) | rfl) | rfl <;> decide

theorem skipBlank_append {gap : List UInt8} (blank : ∀ b ∈ gap, isBlank b = true)
    (tail : List UInt8) : skipBlank (gap ++ tail) = skipBlank tail :=
  List.dropWhile_append_of_pos blank

theorem skipBlank_bytes (e : Entry) (tail : List UInt8) : skipBlank (e.bytes tail) =
    e.label ++ (e.between ++ (e.text ++ (e.behind ++ tail))) := by
  obtain ⟨letters, label⟩ := e.label_eq
  rw [bytes, skipBlank_append fun b member => e.blank b (List.mem_append_left _ member), label]
  rfl

/-- What is read of the value of a member, where a comma or the closing brace follows. -/
theorem value_eq (e : Entry) {mark : UInt8} (known : mark = 0x2c ∨ mark = 0x7d)
    {more : List UInt8} {j : Json}
    (reads : Reads depth (e.between ++ (e.text ++ (e.behind ++ mark :: more))) (.value j) rest) :
    j = e.value ∧ skipBlank rest = mark :: more := by
  have visible : skipBlank (mark :: more) = mark :: more := by
    rcases known with rfl | rfl <;> rfl
  have between : ∀ b ∈ e.between, isBlank b = true := fun b member =>
    e.blank b (List.mem_append_right _ (List.mem_append_left _ member))
  have behind : ∀ b ∈ e.behind, isBlank b = true := fun b member =>
    e.blank b (List.mem_append_right _ (List.mem_append_right _ member))
  have ends : EndsNumber (e.behind ++ mark :: more) := by
    cases gap : e.behind with
    | nil => rcases known with rfl | rfl <;> exact .cons (by decide) more
    | cons b gap =>
      rw [gap] at behind
      exact .cons (notNumber_of_blank (behind b (List.mem_cons_self ..))) _
  obtain ⟨rfl, left⟩ := Reads.of_alone e.alone ends
    (reads.of_skipBlank (skipBlank_append between _))
  rw [skipBlank_append behind, visible] at left
  exact ⟨rfl, left⟩

theorem objectTail_cons (e : Entry) (entries : List Entry) :
    ∃ tail, objectTail (e :: entries) = e.bytes tail := by
  cases entries with
  | nil => exact ⟨_, rfl⟩
  | cons next entries => exact ⟨_, rfl⟩

/-- What is read of a member and of the mark behind it. -/
theorem first_member (e : Entry) {mark : UInt8} (known : mark = 0x2c ∨ mark = 0x7d)
    {more : List UInt8} (reads : Reads depth
      (e.label ++ (e.between ++ (e.text ++ (e.behind ++ mark :: more)))) (.members members) rest) :
    (mark = 0x7d ∧ members = [e.member]) ∨
    (mark = 0x2c ∧ ∃ c next others, skipBlank more = c :: next ∧
      members = e.member :: others ∧ Reads depth (c :: next) (.members others) rest) := by
  cases reads with
  | lastMember named item close =>
    obtain ⟨rfl, rfl⟩ := Prod.mk.inj (Except.ok.inj ((e.named _).symm.trans named))
    obtain ⟨rfl, left⟩ := e.value_eq known item
    exact .inl ⟨(List.cons.inj (left.symm.trans close)).1, rfl⟩
  | nextMember named item comma start _ others =>
    obtain ⟨rfl, rfl⟩ := Prod.mk.inj (Except.ok.inj ((e.named _).symm.trans named))
    obtain ⟨rfl, left⟩ := e.value_eq known item
    obtain ⟨rfl, rfl⟩ := List.cons.inj (left.symm.trans comma)
    exact .inr ⟨rfl, _, _, _, start, rfl, others⟩

theorem members_of_objectTail {entries : List Entry} (start : skipBlank (objectTail entries) = input)
    (reads : Reads depth input (.members members) rest) : members = entries.map member := by
  induction entries generalizing input members with
  | nil =>
    subst start
    cases reads with
    | lastMember named | nextMember named => cases named
  | cons e entries ih =>
    subst start
    cases entries with
    | nil =>
      rw [objectTail, skipBlank_bytes] at reads
      rcases e.first_member (.inr rfl) reads with ⟨_, rfl⟩ | ⟨comma, _⟩
      · rfl
      · cases comma
    | cons next entries =>
      rw [objectTail, skipBlank_bytes] at reads
      · rcases e.first_member (.inl rfl) reads with ⟨close, _⟩ | ⟨_, _, _, others, start, rfl, rest⟩
        · cases close
        · rw [ih start rest]
          rfl
      · exact List.cons_ne_nil next entries

/-- An object that is put together from texts is read as the object of their values. -/
theorem read_objectText {entries : List Entry} {j : Json}
    (read : Json.read (objectText entries) = .ok j) : j = .object (entries.map member) := by
  obtain ⟨rest, reads, _⟩ := read_eq_ok read
  have brace : skipBlank (objectText entries) = 0x7b :: objectTail entries := rfl
  cases reads with
  | scalar first read =>
    obtain ⟨rfl, rfl⟩ := List.cons.inj (brace.symm.trans first)
    exact absurd rfl (Starts.of_scalar read).2.2
  | noItems bracket | list bracket => cases brace.symm.trans bracket
  | noMembers bracket close =>
    obtain ⟨_, rfl⟩ := List.cons.inj (brace.symm.trans bracket)
    cases entries with
    | nil => rfl
    | cons e entries =>
      obtain ⟨tail, first⟩ := objectTail_cons e entries
      obtain ⟨letters, label⟩ := e.label_eq
      rw [first, skipBlank_bytes, label] at close
      cases close
  | object bracket start _ inside =>
    obtain ⟨_, rfl⟩ := List.cons.inj (brace.symm.trans bracket)
    rw [members_of_objectTail start inside]

end Entry

end TopicGateway.Json
