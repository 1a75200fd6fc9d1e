import TopicGateway.Yaml.TokenStream

/-! Scalars that stand on one line, inside it: a text between double quotes with its quotes and
backslashes escaped is read as that text, its spaces included, and a word in a flow collection up to the
punctuation behind it. Neither can be taken for a document indicator, which begins a line. -/
namespace TopicGateway.Yaml

def Visible (c : Char) : Prop :=
  0x20 ≤ c.toNat ∧ c.toNat ≤ 0x7e

instance : DecidablePred Visible :=
  fun _ => inferInstanceAs (Decidable (_ ∧ _))

/-- What holds of the characters of a text is decided on these characters, not on all there are. -/
instance (priority := 1100) decidableForallMem {p : Char → Prop} [DecidablePred p] (cs : List Char) :
    Decidable (∀ c ∈ cs, p c) :=
  List.decidableBAll p cs

theorem Visible.not_break {c : Char} (visible : Visible c) : isBreak c = false := by
  have bounds : 0x20 ≤ c.toNat ∧ c.toNat ≤ 0x7e := visible
  simp only [isBreak, Bool.or_eq_false_iff, decide_eq_false_iff_not]
  refine ⟨⟨⟨⟨?_, ?_⟩, ?_⟩, ?_⟩, ?_⟩
  all_goals
    rintro rfl
    revert bounds
    decide

theorem Visible.isBlank_iff {c : Char} (visible : Visible c) : isBlank c = true ↔ c = ' ' := by
  have bounds : 0x20 ≤ c.toNat ∧ c.toNat ≤ 0x7e := visible
  simp only [isBlank, Bool.or_eq_true, decide_eq_true_iff, or_iff_left_iff_imp]
  rintro rfl
  revert bounds
  decide

theorem Visible.isBlankOrBreak_iff {c : Char} (visible : Visible c) :
    isBlankOrBreak c = true ↔ c = ' ' := by
  rw [isBlankOrBreak, visible.not_break, Bool.or_false, visible.isBlank_iff]

namespace Cursor

theorem skip_zero (c : Cursor) : c.skip 0 = c := rfl

theorem skip_skip (c : Cursor) (m n : Nat) : (c.skip m).skip n = c.skip (m + n) := by
  simp [skip, Mark.forward, Nat.add_assoc]

theorem rest_skip {c : Cursor} {front tail : List Char} (text : c.rest = front ++ tail) :
    (c.skip front.length).rest = tail := by
  simp [skip, text]

theorem rest_skip_one {c : Cursor} {a : Char} {tail : List Char} (text : c.rest = a :: tail) :
    (c.skip 1).rest = tail := by
  simp [skip, text]

theorem column_skip (c : Cursor) (n : Nat) : (c.skip n).column = c.column + n := rfl

theorem takeBreak?_eq_none {c : Cursor} {a : Char} {rest : List Char} (text : c.rest = a :: rest)
    (other : isBreak a = false) : c.takeBreak? = none := by
  simp only [isBreak, Bool.or_eq_false_iff, decide_eq_false_iff_not] at other
  obtain ⟨⟨⟨⟨cr, lf⟩, nel⟩, ls⟩, ps⟩ := other
  simp [takeBreak?, text, isBreak, cr, lf, nel, ls, ps]

theorem skipWhile_eq {c : Cursor} {a : Char} {rest : List Char} (text : c.rest = a :: rest)
    {p : Char → Bool} (stops : p a = false) : c.skipWhile p = c := by
  obtain ⟨mark, chars⟩ := c
  cases text
  simp [skipWhile, span, stops, Mark.forward]

theorem atIndicator_of_column {c : Cursor} (inside : 0 < c.column) (sign : Char) :
    c.atIndicator sign = false := by
  have other : (c.column == 0) = false := beq_eq_false_iff_ne.2 (Nat.ne_of_gt inside)
  simp [atIndicator, other]

theorem atDocumentIndicator_of_column {c : Cursor} (inside : 0 < c.column) :
    c.atDocumentIndicator = false := by
  simp [atDocumentIndicator, atIndicator_of_column inside]

end Cursor

def quotedChar (c : Char) : List Char :=
  if c = '"' ∨ c = '\\' then ['\\', c] else [c]

def quotedChars (cs : List Char) : List Char :=
  cs.flatMap quotedChar

theorem quotedChars_nil : quotedChars [] = [] := rfl

theorem quotedChars_cons (c : Char) (cs : List Char) :
    quotedChars (c :: cs) = quotedChar c ++ quotedChars cs := rfl

theorem quotedChars_append (cs ds : List Char) :
    quotedChars (cs ++ ds) = quotedChars cs ++ quotedChars ds :=
  List.flatMap_append

theorem quotedChars_spaces (count : Nat) :
    quotedChars (List.replicate count ' ') = List.replicate count ' ' := by
  induction count with
  | zero => rfl
  | succ count ih => rw [List.replicate_succ, quotedChars_cons, ih]; rfl

/-- Where each item gives something, there is not less than there are items. -/
theorem length_le_flatMap {α β : Type} {f : α → List β} (some : ∀ a, f a ≠ []) (items : List α) :
    items.length ≤ (items.flatMap f).length := by
  induction items with
  | nil => exact Nat.le_refl 0
  | cons a items ih =>
    have first := List.length_pos_iff.2 (some a)
    rw [List.flatMap_cons, List.length_append, List.length_cons]
    omega

theorem quotedChar_ne_nil (c : Char) : quotedChar c ≠ [] := by
  unfold quotedChar
  split <;> simp

/-- A quoted character is no space unless it stands for one. -/
theorem quotedChar_solid {c : Char} (visible : Visible c) (other : c ≠ ' ') :
    ∃ b rest, quotedChar c = b :: rest ∧ isBlank b = false ∧ isBreak b = false := by
  unfold quotedChar
  split
  · exact ⟨'\\', [c], rfl, by decide, by decide⟩
  · refine ⟨c, [], rfl, ?_, visible.not_break⟩
    rw [← Bool.not_eq_true, visible.isBlank_iff]
    exact other

/-- A text up to its first spaces, these spaces, and the rest of it. -/
theorem exists_spaces (cs : List Char) : ∃ piece count left,
    cs = piece ++ (List.replicate count ' ' ++ left) ∧ (∀ a ∈ piece, a ≠ ' ') ∧
      left.head? ≠ some ' ' ∧ (count = 0 → left = []) := by
  induction cs with
  | nil => exact ⟨[], 0, [], rfl, nofun, nofun, fun _ => rfl⟩
  | cons c cs ih =>
    obtain ⟨piece, count, left, rfl, solid, ended, short⟩ := ih
    by_cases space : c = ' '
    · subst space
      cases piece with
      | nil => exact ⟨[], count + 1, left, rfl, nofun, ended, nofun⟩
      | cons a piece =>
        refine ⟨[], 1, a :: piece ++ (List.replicate count ' ' ++ left), rfl, nofun, ?_, nofun⟩
        exact fun same => solid a (List.mem_cons_self ..) (Option.some.inj same)
    · exact ⟨c :: piece, count, left, rfl, List.forall_mem_cons.2 ⟨space, solid⟩, ended, short⟩

namespace QuotedScalar

variable {cs tail seen : List Char} {start : Mark}

/-- A character between quotes, and where it ends: at the quote behind it or at another one. -/
theorem pieceWithin_quotedChar {a : Char} {c : Cursor} {rest : List Char} (visible : Visible a)
    (other : a ≠ ' ') (text : c.rest = quotedChar a ++ rest) (fuel : Nat) :
    pieceWithin false start (fuel + 1) seen c =
      pieceWithin false start fuel (a :: seen) (c.skip (quotedChar a).length) := by
  have solid : isBlankOrBreak a = false := by
    rw [← Bool.not_eq_true, visible.isBlankOrBreak_iff]
    exact other
  by_cases escaped : a = '"' ∨ a = '\\'
  · have shape : quotedChar a = ['\\', a] := if_pos escaped
    rw [shape] at text ⊢
    have read : readEscape start c = .ok (a, c.skip 2) := by
      rw [readEscape, text]
      rcases escaped with rfl | rfl <;> rfl
    have unbroken : startsWith isBreak (a :: rest) = false := visible.not_break
    have solidBackslash : isBlankOrBreak '\\' = false := by decide
    rw [pieceWithin, text]
    simp [solidBackslash, unbroken, read]
  · have shape : quotedChar a = [a] := if_neg escaped
    obtain ⟨noQuote, noBackslash⟩ := not_or.1 escaped
    rw [shape] at text ⊢
    rw [pieceWithin, text]
    simp [solid, noQuote, noBackslash]

/-- A piece goes up to the first space or to the closing quote. -/
theorem pieceWithin_quotedChars {piece behind : List Char} (visible : ∀ a ∈ piece, Visible a)
    (solid : ∀ a ∈ piece, a ≠ ' ') (ends : behind.head? = some ' ' ∨ behind.head? = some '"')
    {fuel : Nat} {c : Cursor} (text : c.rest = quotedChars piece ++ behind)
    (enough : piece.length < fuel) :
    pieceWithin false start fuel seen c =
      .ok ((piece.reverse ++ seen, false), c.skip (quotedChars piece).length) := by
  induction piece generalizing fuel c seen with
  | nil =>
    obtain ⟨less, rfl⟩ := Nat.exists_eq_succ_of_ne_zero (Nat.ne_of_gt enough)
    cases behind with
    | nil => simp at ends
    | cons b behind =>
      have text : c.rest = b :: behind := text
      rw [pieceWithin, text]
      rcases ends with space | quote
      · cases space
        simp [quotedChars, isBlankOrBreak, isBlank, c.skip_zero]
      · cases quote
        have closing : isBlankOrBreak '"' = false := by decide
        simp [quotedChars, closing, c.skip_zero]
  | cons a piece ih =>
    obtain ⟨less, rfl⟩ := Nat.exists_eq_succ_of_ne_zero (Nat.ne_of_gt (Nat.zero_lt_of_lt enough))
    obtain ⟨first, later⟩ := List.forall_mem_cons.1 visible
    obtain ⟨other, others⟩ := List.forall_mem_cons.1 solid
    rw [quotedChars_cons, List.append_assoc] at text
    rw [pieceWithin_quotedChar first other text,
      ih later others (Cursor.rest_skip text) (Nat.lt_of_succ_lt_succ enough), c.skip_skip,
      quotedChars_cons, List.length_append]
    simp

/-- A gap on one line is its spaces. -/
theorem gapWithin_spaces {behind : List Char}
    (ends : ∃ b rest, behind = b :: rest ∧ isBlank b = false ∧ isBreak b = false) {count fuel : Nat}
    {c : Cursor} (before : List Char) (text : c.rest = List.replicate count ' ' ++ behind)
    (enough : count < fuel) :
    Gap.readWithin fuel ⟨before, false, .none, []⟩ c =
      (⟨List.replicate count ' ' ++ before, false, .none, []⟩, c.skip count) := by
  induction count generalizing fuel c before with
  | zero =>
    obtain ⟨less, rfl⟩ := Nat.exists_eq_succ_of_ne_zero (Nat.ne_of_gt enough)
    obtain ⟨b, rest, rfl, blank, unbroken⟩ := ends
    have text : c.rest = b :: rest := text
    rw [Gap.readWithin, text]
    simp [blank, Cursor.takeBreak?_eq_none text unbroken, c.skip_zero]
  | succ count ih =>
    obtain ⟨less, rfl⟩ := Nat.exists_eq_succ_of_ne_zero (Nat.ne_of_gt (Nat.zero_lt_of_lt enough))
    have front : isBlank ' ' = true := by decide
    have added : Gap.blank ⟨before, false, .none, []⟩ ' ' = ⟨' ' :: before, false, .none, []⟩ := rfl
    rw [List.replicate_succ, List.cons_append] at text
    have rest := ih (' ' :: before) (Cursor.rest_skip_one text) (Nat.lt_of_succ_lt_succ enough)
    rw [Gap.readWithin, text]
    simp only [front, if_true, added, rest, c.skip_skip, List.replicate_succ', List.append_assoc,
      List.singleton_append, Nat.add_comm 1]

/-- Pieces and gaps make up the text again. -/
theorem readWithin_quotedChars (visible : ∀ a ∈ cs, Visible a) {fuel : Nat} {c : Cursor}
    (text : c.rest = quotedChars cs ++ '"' :: tail) (inside : 0 < c.column)
    (enough : cs.length + 1 < fuel) :
    readWithin false start fuel seen c =
      .ok (cs.reverse ++ seen, c.skip ((quotedChars cs).length + 1)) := by
  induction length : cs.length using Nat.strongRecOn generalizing cs fuel c seen with
  | _ n ih =>
    obtain ⟨less, rfl⟩ := Nat.exists_eq_succ_of_ne_zero (Nat.ne_of_gt (Nat.zero_lt_of_lt enough))
    obtain ⟨piece, count, left, rfl, solid, ended, short⟩ := exists_spaces cs
    simp only [List.length_append, List.length_replicate] at length enough
    rw [quotedChars_append, quotedChars_append, quotedChars_spaces] at text ⊢
    simp only [List.append_assoc] at text
    have visibleLeft : ∀ a ∈ left, Visible a := fun a member =>
      visible a (List.mem_append_right _ (List.mem_append_right _ member))
    have nonempty : c.rest.isEmpty = false := by
      rw [text]
      simp
    have behind := Cursor.rest_skip text
    rw [readWithin, Cursor.atDocumentIndicator_of_column inside, nonempty]
    cases count with
    | zero =>
      obtain rfl := short rfl
      have first : pieceWithin false start less seen c = _ := pieceWithin_quotedChars
        (fun a member => visible a (List.mem_append_left _ member)) solid (.inr rfl) text (by omega)
      have closes : startsWith (· = '"') (c.skip (quotedChars piece).length).rest = true := by
        rw [behind]
        rfl
      simp only [first, closes, Bool.false_eq_true, if_true, if_false, c.skip_skip, quotedChars_nil,
        List.replicate_zero, List.append_nil]
    | succ count =>
      have first : pieceWithin false start less seen c = _ := pieceWithin_quotedChars
        (fun a member => visible a (List.mem_append_left _ member)) solid (.inl rfl) text (by omega)
      have stays : startsWith (· = '"') (c.skip (quotedChars piece).length).rest = false := by
        rw [behind]
        rfl
      have ends : ∃ b rest, quotedChars left ++ '"' :: tail = b :: rest ∧ isBlank b = false ∧
          isBreak b = false := by
        cases left with
        | nil => exact ⟨'"', tail, rfl, by decide, by decide⟩
        | cons a left =>
          obtain ⟨b, rest, shape, solid⟩ := quotedChar_solid (visibleLeft a (List.mem_cons_self ..))
            (fun same => ended (congrArg some same))
          exact ⟨b, _, by rw [quotedChars_cons, shape]; rfl, solid⟩
      have gap : Gap.readWithin less ⟨[], false, .none, []⟩ _ = _ :=
        gapWithin_spaces ends [] behind (by omega)
      have later := Cursor.rest_skip behind
      rw [List.length_replicate] at later
      have folded : Gap.folded ⟨List.replicate (count + 1) ' ' ++ [], false, .none, []⟩ =
          List.replicate (count + 1) ' ' := List.append_nil _
      have rest : readWithin false start less
          (List.replicate (count + 1) ' ' ++ (piece.reverse ++ seen)) _ = _ :=
        ih left.length (by omega) visibleLeft later
          (Nat.lt_of_lt_of_le inside (by simp [Cursor.column_skip]; omega)) (by omega) rfl
      rw [Gap.none]
      simp only [first, stays, gap, folded, rest, Bool.false_eq_true, if_false]
      simp [Cursor.skip_skip, Nat.add_assoc]

/-- A text between double quotes is read as that text. -/
theorem read_quotedChars (visible : ∀ a ∈ cs, Visible a) {c : Cursor}
    (text : c.rest = '"' :: (quotedChars cs ++ '"' :: tail)) :
    read false c =
      .ok (⟨.scalar (String.ofList cs) .doubleQuoted, c.mark,
        (c.skip ((quotedChars cs).length + 2)).mark⟩, c.skip ((quotedChars cs).length + 2)) := by
  have behind := Cursor.rest_skip_one text
  have length : cs.length ≤ (quotedChars cs).length := length_le_flatMap quotedChar_ne_nil cs
  have read : readWithin false c.mark (c.rest.length + 1) [] (c.skip 1) = _ :=
    readWithin_quotedChars visible behind (Nat.succ_pos _) (by rw [text]; simp; omega)
  rw [QuotedScalar.read]
  simp [read, c.skip_skip, Nat.add_comm 1]

end QuotedScalar

/-- A character that goes on with a word, whatever stands before and behind it. -/
def isWordChar (c : Char) : Bool :=
  c.isAlphanum || c = '.' || c = '+' || c = '-'

theorem isWordChar_solid {c : Char} (word : isWordChar c = true) :
    isBlankOrBreak c = false ∧ c ≠ ':' ∧ c ≠ '#' ∧ PlainScalar.isFlowPunctuation c = false := by
  have other (d : Char) (mark : isWordChar d = false) : c ≠ d := by
    rintro rfl
    rw [mark] at word
    cases word
  refine ⟨?_, other ':' (by decide), other '#' (by decide), ?_⟩
  · simp only [isBlankOrBreak, isBlank, isBreak, Bool.or_eq_false_iff, decide_eq_false_iff_not]
    refine ⟨⟨?_, ?_⟩, ⟨⟨⟨?_, ?_⟩, ?_⟩, ?_⟩, ?_⟩
    all_goals exact other _ (by decide)
  · simp only [PlainScalar.isFlowPunctuation, Bool.or_eq_false_iff, decide_eq_false_iff_not]
    refine ⟨⟨⟨⟨?_, ?_⟩, ?_⟩, ?_⟩, ?_⟩
    all_goals exact other _ (by decide)

/-- What follows a word in a flow collection. -/
def EndsWord (tail : List Char) : Prop :=
  ∃ b rest, tail = b :: rest ∧ PlainScalar.isFlowPunctuation b = true

theorem solid_of_isFlowPunctuation {b : Char} (mark : PlainScalar.isFlowPunctuation b = true) :
    isBlankOrBreak b = false ∧ b ≠ ':' := by
  simp only [PlainScalar.isFlowPunctuation, Bool.or_eq_true, decide_eq_true_iff] at mark
  rcases mark with (((rfl | rfl) | rfl) | rfl) | rfl
  all_goals decide

namespace PlainScalar

variable {word tail : List Char}

theorem piece_word (plain : ∀ a ∈ word, isWordChar a = true) (ends : EndsWord tail)
    (seen : List Char) : piece true seen (word ++ tail) = ⟨word.reverse ++ seen, false, tail⟩ := by
  induction word generalizing seen with
  | nil =>
    obtain ⟨b, rest, rfl, mark⟩ := ends
    obtain ⟨solid, colon⟩ := solid_of_isFlowPunctuation mark
    simp [piece, solid, isStrayColon, colon, endsBefore, mark]
  | cons a word ih =>
    obtain ⟨first, later⟩ := List.forall_mem_cons.1 plain
    obtain ⟨solid, colon, _, mark⟩ := isWordChar_solid first
    rw [List.cons_append, piece]
    simp [solid, isStrayColon, colon, endsBefore, mark, ih later]

/-- A word is read up to the punctuation behind it. -/
theorem read_word (plain : ∀ a ∈ word, isWordChar a = true) (nonempty : word ≠ [])
    (ends : EndsWord tail) {c : Cursor} (text : c.rest = word ++ tail) (inside : 0 < c.column)
    (indent : Int) :
    read true indent c =
      .ok ((⟨.scalar (String.ofList word) .plain, c.mark, (c.skip word.length).mark⟩, false),
        c.skip word.length) := by
  have comment : startsWith (· = '#') c.rest = false := by
    obtain ⟨a, rest, rfl⟩ := List.exists_cons_of_ne_nil nonempty
    obtain ⟨_, _, other, _⟩ := isWordChar_solid (plain a (List.mem_cons_self ..))
    rw [text]
    exact decide_eq_false other
  have stop : startsWith isBlankOrBreak tail = false := by
    obtain ⟨b, rest, rfl, mark⟩ := ends
    exact (solid_of_isFlowPunctuation mark).1
  have skipped : c.skip word.length = ⟨c.mark.forward word.length, tail⟩ := by
    simp [Cursor.skip, text]
  have read : readWithin true indent c.mark (c.rest.length + 1) ⟨[], c.mark, .none⟩ c =
      .ok (⟨word.reverse, c.mark.forward word.length, .none⟩, c.skip word.length) := by
    rw [readWithin, Cursor.atDocumentIndicator_of_column inside, comment, text,
      piece_word plain ends]
    simp [stop, skipped, nonempty, Gap.folded, Gap.none]
  rw [PlainScalar.read, read]
  simp [Gap.none, Cursor.skip]

end PlainScalar

end TopicGateway.Yaml
