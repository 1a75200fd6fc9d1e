import TopicGateway.Proofs.Json.RoundTrip
import TopicGateway.Proofs.Yaml.Tokens

/-! A written JSON value is a YAML text in flow notation. Its characters are scanned to the tokens of
the same collections and scalars: what stands in quotes is a quoted scalar and everything else a plain
one, and the name of each member is a key as long as it is short enough for one. -/
namespace TopicGateway

open Text (asciiByte)
open Yaml (Visible quotedChar quotedChars isWordChar EndsWord Lexeme At Reaches Stage)

namespace Json

def comma (isFirst : Bool) : List Char :=
  if isFirst then [] else [',']

def quotedText (s : String) : List Char :=
  '"' :: (quotedChars s.toList ++ ['"'])

mutual

def chars : Json → List Char
  | .null => "null".toList
  | .bool true => "true".toList
  | .bool false => "false".toList
  | .number n => n.text.toList
  | .string s => quotedText s
  | .array items => '[' :: (itemChars true items ++ [']'])
  | .object members => '\x7b' :: (memberChars true members ++ ['\x7d'])

def itemChars : Bool → List Json → List Char
  | _, [] => []
  | isFirst, j :: items => comma isFirst ++ (chars j ++ itemChars false items)

def memberChars : Bool → List (String × Json) → List Char
  | _, [] => []
  | isFirst, (name, j) :: members =>
    comma isFirst ++ (quotedText name ++ ':' :: (chars j ++ memberChars false members))

end

def VisibleText (s : String) : Prop :=
  ∀ c ∈ s.toList, Visible c

instance (s : String) : Decidable (VisibleText s) :=
  inferInstanceAs (Decidable (∀ c ∈ s.toList, Visible c))

def IsKey (name : String) : Prop :=
  VisibleText name ∧ (quotedText name).length ≤ Yaml.Scanner.longestKey

instance (name : String) : Decidable (IsKey name) :=
  inferInstanceAs (Decidable (_ ∧ _))

mutual

def Legible : Json → Prop
  | .string s => VisibleText s
  | .array items => LegibleItems items
  | .object members => LegibleMembers members
  | _ => True

def LegibleItems : List Json → Prop
  | [] => True
  | j :: items => Legible j ∧ LegibleItems items

def LegibleMembers : List (String × Json) → Prop
  | [] => True
  | (name, j) :: members => IsKey name ∧ Legible j ∧ LegibleMembers members

end

theorem ascii_of_visible {c : Char} (visible : Visible c) : c.toNat < 128 :=
  Nat.lt_succ_of_le (Nat.le_trans visible.2 (by decide))

theorem escapeByte_asciiByte {c : Char} (visible : Visible c) :
    escapeByte (asciiByte c) = (quotedChar c).map asciiByte := by
  have code := Text.asciiByte_toNat (ascii_of_visible visible)
  have other (b : UInt8) (control : b.toNat < 0x20) : asciiByte c ≠ b := by
    intro same
    have low := visible.1
    rw [← code, same] at low
    exact absurd low (Nat.not_le.2 control)
  have quote : asciiByte c = 0x22 ↔ c = '"' := by
    rw [← UInt8.toNat_inj, code, ← Char.toNat_inj]
    rfl
  have backslash : asciiByte c = 0x5c ↔ c = '\\' := by
    rw [← UInt8.toNat_inj, code, ← Char.toNat_inj]
    rfl
  have text : ¬asciiByte c < 0x20 := by
    rw [UInt8.lt_iff_toNat_lt, code]
    exact Nat.not_lt.2 visible.1
  by_cases isQuote : c = '"'
  · subst isQuote
    rfl
  by_cases isBackslash : c = '\\'
  · subst isBackslash
    rfl
  simp [escapeByte, quotedChar, quote, backslash, isQuote, isBackslash, text,
    other 0x08 (by decide), other 0x09 (by decide), other 0x0a (by decide), other 0x0c (by decide),
    other 0x0d (by decide)]

theorem escape_map {cs : List Char} (visible : ∀ c ∈ cs, Visible c) (tail : List UInt8) :
    escape (cs.map asciiByte) tail = (quotedChars cs).map asciiByte ++ tail := by
  induction cs with
  | nil => rfl
  | cons c cs ih =>
    obtain ⟨first, later⟩ := List.forall_mem_cons.1 visible
    have rest := ih later
    simp only [escape, List.map_cons, List.foldr_cons, escapeByte_asciiByte first] at rest ⊢
    rw [rest, Yaml.quotedChars_cons, List.map_append, List.append_assoc]

theorem encode_of_ascii {s : String} (ascii : ∀ c ∈ s.toList, c.toNat < 128) :
    Text.Utf8.encode s = s.toList.map asciiByte := by
  have bytes := Text.Utf8.encode_ofList ascii
  rwa [String.ofList_toList] at bytes

theorem writeString_eq {s : String} (visible : VisibleText s) (tail : List UInt8) :
    writeString s tail = (quotedText s).map asciiByte ++ tail := by
  rw [writeString, encode_of_ascii fun c member => ascii_of_visible (visible c member),
    escape_map visible, quotedText]
  simp
  rfl

theorem isWordChar_of_digit {c : Char} (digit : c.isDigit = true) : isWordChar c = true := by
  simp [isWordChar, Char.isAlphanum, digit]

theorem isWordChar_of_gives {s : Spelling} {d : Decimal} (gives : s.Gives d) :
    ∀ c ∈ s.chars, isWordChar c = true := by
  intro c member
  rcases gives.of_mem member with digit | rfl | rfl | rfl | rfl
  · exact isWordChar_of_digit digit
  all_goals decide

theorem chars_ne_nil_of_gives {s : Spelling} {d : Decimal} (gives : s.Gives d) : s.chars ≠ [] :=
  List.append_ne_nil_of_left_ne_nil gives.whole.nonempty _

/-- The text of a number, without its sign. -/
theorem Number.exists_digits (n : Number) : ∃ negative digits,
    n.text = String.ofList (Spelling.signChars negative ++ digits) ∧ digits ≠ [] ∧
      ∀ c ∈ digits, isWordChar c = true := by
  cases n with
  | integer z fits =>
    exact ⟨_, _, Decimal.toString_eq z, Decimal.digitsOf_ne_nil _,
      fun c member => isWordChar_of_digit (Decimal.isDigit_digitsOf _ c member)⟩
  | real r =>
    obtain ⟨s, text, gives⟩ := r.exists_spelling
    exact ⟨_, _, text, chars_ne_nil_of_gives gives, isWordChar_of_gives gives⟩

theorem Number.word (n : Number) :
    n.text.toList ≠ [] ∧ ∀ c ∈ n.text.toList, isWordChar c = true := by
  obtain ⟨negative, digits, text, nonempty, word⟩ := n.exists_digits
  have sign : ∀ c ∈ Spelling.signChars negative, isWordChar c = true := by
    cases negative <;> decide
  rw [text, String.toList_ofList]
  exact ⟨List.append_ne_nil_of_right_ne_nil _ nonempty, List.forall_mem_append.2 ⟨sign, word⟩⟩

theorem visible_of_between {c : Char} {low high : UInt32} (bounds : low ≤ c.val ∧ c.val ≤ high)
    (first : 0x20 ≤ low.toNat) (last : high.toNat ≤ 0x7e) : Visible c :=
  ⟨Nat.le_trans first (UInt32.le_iff_toNat_le.1 bounds.1),
    Nat.le_trans (UInt32.le_iff_toNat_le.1 bounds.2) last⟩

theorem visible_of_isWordChar {c : Char} (word : isWordChar c = true) : Visible c := by
  simp only [isWordChar, Bool.or_eq_true, decide_eq_true_iff] at word
  rcases word with ((alphanumeric | rfl) | rfl) | rfl
  · have kinds : c.isAlphanum = (c.isUpper || c.isLower || c.isDigit) := rfl
    rw [kinds, Bool.or_eq_true, Bool.or_eq_true] at alphanumeric
    rcases alphanumeric with (upper | lower) | digit
    · exact visible_of_between (of_decide_eq_true upper) (by decide) (by decide)
    · obtain ⟨low, high⟩ := Bool.and_eq_true_iff.1 lower
      exact visible_of_between ⟨of_decide_eq_true low, of_decide_eq_true high⟩ (by decide)
        (by decide)
    · obtain ⟨low, high⟩ := Text.isDigit_bounds digit
      exact ⟨by omega, by omega⟩
  all_goals decide

theorem visible_quotedText {s : String} (visible : VisibleText s) : ∀ c ∈ quotedText s, Visible c := by
  intro c member
  rcases List.mem_cons.1 member with rfl | inside
  · decide
  rcases List.mem_append.1 inside with inside | inside
  · obtain ⟨d, known, written⟩ := List.mem_flatMap.1 inside
    have seen := visible d known
    unfold quotedChar at written
    split at written
    · rcases List.mem_cons.1 written with rfl | written
      · decide
      · rwa [List.mem_singleton.1 written]
    · rwa [List.mem_singleton.1 written]
  · rw [List.mem_singleton.1 inside]
    decide

theorem visible_comma (isFirst : Bool) : ∀ c ∈ comma isFirst, Visible c := by
  cases isFirst <;> decide

mutual

theorem visible_chars : (j : Json) → j.Legible → ∀ c ∈ j.chars, Visible c
  | .null, _ => by decide
  | .bool true, _ => by decide
  | .bool false, _ => by decide
  | .number n, _ => fun c member => visible_of_isWordChar (n.word.2 c member)
  | .string _, legible => visible_quotedText legible
  | .array items, legible => List.forall_mem_cons.2 ⟨by decide, List.forall_mem_append.2
      ⟨visible_itemChars items legible true, by decide⟩⟩
  | .object members, legible => List.forall_mem_cons.2 ⟨by decide, List.forall_mem_append.2
      ⟨visible_memberChars members legible true, by decide⟩⟩

theorem visible_itemChars : (items : List Json) → LegibleItems items → (isFirst : Bool) →
    ∀ c ∈ itemChars isFirst items, Visible c
  | [], _, _ => nofun
  | j :: items, ⟨first, later⟩, isFirst => List.forall_mem_append.2 ⟨visible_comma isFirst,
      List.forall_mem_append.2 ⟨visible_chars j first, visible_itemChars items later false⟩⟩

theorem visible_memberChars : (members : List (String × Json)) → LegibleMembers members →
    (isFirst : Bool) → ∀ c ∈ memberChars isFirst members, Visible c
  | [], _, _ => nofun
  | (_, j) :: members, ⟨key, first, later⟩, isFirst => List.forall_mem_append.2
      ⟨visible_comma isFirst, List.forall_mem_append.2 ⟨visible_quotedText key.1,
        List.forall_mem_cons.2 ⟨by decide, List.forall_mem_append.2
          ⟨visible_chars j first, visible_memberChars members later false⟩⟩⟩⟩

end

theorem write_word {word : String} (plain : ∀ c ∈ word.toList, isWordChar c = true)
    (tail : List UInt8) : ascii word ++ tail = word.toList.map asciiByte ++ tail := by
  rw [ascii, encode_of_ascii fun c member => ascii_of_visible (visible_of_isWordChar (plain c member))]

mutual

theorem write_eq : (j : Json) → j.Legible → (tail : List UInt8) →
    j.write tail = j.chars.map asciiByte ++ tail
  | .null, _, tail => write_word (by decide) tail
  | .bool true, _, tail => write_word (by decide) tail
  | .bool false, _, tail => write_word (by decide) tail
  | .number n, _, tail => write_word n.word.2 tail
  | .string s, legible, tail => writeString_eq legible tail
  | .array items, legible, tail => by
    have inner := writeItems_eq items legible (0x5d :: tail)
    rw [write, inner, chars]
    simp
    exact ⟨rfl, rfl⟩
  | .object members, legible, tail => by
    have inner := writeMembers_eq members legible (0x7d :: tail)
    rw [write, inner, chars]
    simp
    exact ⟨rfl, rfl⟩

theorem writeItems_eq : (items : List Json) → LegibleItems items → (tail : List UInt8) →
    writeItems items tail = (itemChars true items).map asciiByte ++ tail
  | [], _, _ => rfl
  | [j], legible, tail => by
    rw [writeItems, write_eq j legible.1]
    simp [itemChars, comma]
  | j :: k :: items, legible, tail => by
    have later := writeItems_eq (k :: items) legible.2 tail
    rw [writeItems_cons j (List.cons_ne_nil _ _), later, write_eq j legible.1]
    simp [itemChars, comma]
    rfl

theorem writeMembers_eq : (members : List (String × Json)) → LegibleMembers members →
    (tail : List UInt8) →
    writeMembers members tail = (memberChars true members).map asciiByte ++ tail
  | [], _, _ => rfl
  | [(name, j)], legible, tail => by
    rw [writeMembers, write_eq j legible.2.1, writeString_eq legible.1.1]
    simp [memberChars, comma]
    rfl
  | (name, j) :: m :: members, legible, tail => by
    have later := writeMembers_eq (m :: members) legible.2.2 tail
    rw [writeMembers_cons name j (List.cons_ne_nil _ _), later, write_eq j legible.2.1,
      writeString_eq legible.1.1]
    simp [memberChars, comma]
    exact ⟨rfl, rfl⟩

end

/-- The written form as a text. -/
theorem text_eq {j : Json} (legible : j.Legible) : j.text = String.ofList j.chars := by
  have bytes : j.bytes = Text.Utf8.encode (String.ofList j.chars) := by
    rw [bytes, write_eq j legible, List.append_nil, Text.Utf8.encode_ofList fun c member =>
      ascii_of_visible (visible_chars j legible c member)]
  rw [text, bytes, Text.Utf8.decode?_encode, Option.getD_some]

def entrySign (isFirst : Bool) : List Lexeme :=
  if isFirst then [] else [.flowEntry]

mutual

def lexemes : Json → List Lexeme
  | .null => [.scalar "null" .plain]
  | .bool true => [.scalar "true" .plain]
  | .bool false => [.scalar "false" .plain]
  | .number n => [.scalar n.text .plain]
  | .string s => [.scalar s .doubleQuoted]
  | .array items => .flowSequenceStart :: (itemLexemes true items ++ [.flowSequenceEnd])
  | .object members => .flowMappingStart :: (memberLexemes true members ++ [.flowMappingEnd])

def itemLexemes : Bool → List Json → List Lexeme
  | _, [] => []
  | isFirst, j :: items => entrySign isFirst ++ (lexemes j ++ itemLexemes false items)

def memberLexemes : Bool → List (String × Json) → List Lexeme
  | _, [] => []
  | isFirst, (name, j) :: members =>
    entrySign isFirst ++
      (.key :: .scalar name .doubleQuoted :: .value :: (lexemes j ++ memberLexemes false members))

end

section

variable {taken : List Yaml.Token} {s : Yaml.Scanner} {stage : Stage}

theorem scan_word (here : At taken s stage) {word : String} {rest : List Char}
    (plain : word.toList ≠ [] ∧ ∀ c ∈ word.toList, isWordChar c = true)
    (text : stage.rest = word.toList ++ rest) (inFlow : 0 < stage.depth) (ends : EndsWord rest) :
    Reaches taken s ⟨stage.seen ++ [.scalar word .plain], rest, stage.depth, false, none⟩ := by
  have reached := here.word plain.2 plain.1 ends text inFlow
  rwa [String.ofList_toList] at reached

theorem scan_text (here : At taken s stage) {text : String} {rest : List Char}
    (visible : VisibleText text) (shape : stage.rest = quotedText text ++ rest) {key : Option Nat}
    (pending : ∀ n ∈ key, n = stage.seen.length ∧ stage.keyAllowed = true ∧
      (quotedText text).length ≤ Yaml.Scanner.longestKey) :
    Reaches taken s ⟨stage.seen ++ [.scalar text .doubleQuoted], rest, stage.depth, false, key⟩ := by
  have length : (quotedText text).length = (quotedChars text.toList).length + 2 := by
    simp [quotedText]
  rw [length] at pending
  have split : stage.rest = '"' :: (quotedChars text.toList ++ '"' :: rest) := by
    rw [shape]
    simp [quotedText]
  have reached := here.text visible split pending
  rwa [String.ofList_toList] at reached

/-- Behind an item stands a comma or the end of the collection. -/
theorem endsWord_items {items : List Json} {close : Char} (rest : List Char)
    (mark : Yaml.PlainScalar.isFlowPunctuation close = true) :
    EndsWord (itemChars false items ++ close :: rest) := by
  cases items with
  | nil => exact ⟨close, rest, rfl, mark⟩
  | cons j items => exact ⟨',', _, rfl, by decide⟩

theorem endsWord_members {members : List (String × Json)} {close : Char} (rest : List Char)
    (mark : Yaml.PlainScalar.isFlowPunctuation close = true) :
    EndsWord (memberChars false members ++ close :: rest) := by
  cases members with
  | nil => exact ⟨close, rest, rfl, mark⟩
  | cons m members => exact ⟨',', _, rfl, by decide⟩

/-- Past the comma in front of an item or a member that is not the first one. -/
theorem scan_comma (here : At taken s stage) {isFirst : Bool} {rest : List Char}
    (text : stage.rest = comma isFirst ++ rest)
    (allowed : isFirst = true → stage.keyAllowed = true) :
    Reaches taken s ⟨stage.seen ++ entrySign isFirst, rest, stage.depth, true, none⟩ := by
  cases isFirst with
  | true =>
    have same : (⟨stage.seen ++ entrySign true, rest, stage.depth, true, none⟩ : Stage) =
        { stage with key := none } := by
      obtain ⟨seen, _, depth, keyAllowed, key⟩ := stage
      cases text
      cases allowed rfl
      simp [entrySign]
    rw [same]
    exact here.weaken.reached
  | false => exact here.comma text

mutual

theorem scan : (j : Json) → j.Legible → ∀ {taken s stage} {rest : List Char}, At taken s stage →
    0 < stage.depth → stage.rest = j.chars ++ rest → EndsWord rest →
    Reaches taken s ⟨stage.seen ++ j.lexemes, rest, stage.depth, false, none⟩
  | .null, _, _, _, _, _, here, inFlow, text, ends => scan_word here (by decide) text inFlow ends
  | .bool true, _, _, _, _, _, here, inFlow, text, ends => scan_word here (by decide) text inFlow ends
  | .bool false, _, _, _, _, _, here, inFlow, text, ends => scan_word here (by decide) text inFlow ends
  | .number n, _, _, _, _, _, here, inFlow, text, ends => scan_word here n.word text inFlow ends
  | .string s, legible, _, _, _, _, here, _, text, _ => scan_text here legible text nofun
  | .array items, legible, _, _, stage, rest, here, _, text, _ => by
    have shape : stage.rest = '[' :: (itemChars true items ++ ']' :: rest) := by
      rw [text, chars]
      simp
    refine (here.opens shape .sequence).trans fun inside => ?_
    have closed := scanItems items legible inside rfl rfl fun _ => rfl
    rwa [List.append_assoc] at closed
  | .object members, legible, _, _, stage, rest, here, _, text, _ => by
    have shape : stage.rest = '\x7b' :: (memberChars true members ++ '\x7d' :: rest) := by
      rw [text, chars]
      simp
    refine (here.opens shape .mapping).trans fun inside => ?_
    have closed := scanMembers members legible inside rfl rfl fun _ => rfl
    rwa [List.append_assoc] at closed

theorem scanItems : (items : List Json) → LegibleItems items → ∀ {taken s stage isFirst depth}
    {rest : List Char}, At taken s stage → stage.depth = depth + 1 →
    stage.rest = itemChars isFirst items ++ ']' :: rest →
    (isFirst = true → stage.keyAllowed = true) →
    Reaches taken s
      ⟨stage.seen ++ (itemLexemes isFirst items ++ [.flowSequenceEnd]), rest, depth, false, none⟩
  | [], _, _, _, _, _, _, _, here, inside, text, _ => here.closes text .sequence inside
  | j :: items, legible, _, _, stage, isFirst, depth, rest, here, inside, text, allowed => by
    rw [itemChars, List.append_assoc] at text
    refine (scan_comma here text allowed).trans fun there => ?_
    refine (scan j legible.1 there (by rw [inside]; exact Nat.succ_pos _) (List.append_assoc ..)
      (endsWord_items rest rfl)).trans fun behind => ?_
    have closed := scanItems items legible.2 behind inside rfl nofun
    rw [itemLexemes]
    simpa only [List.append_assoc] using closed

theorem scanMembers : (members : List (String × Json)) → LegibleMembers members →
    ∀ {taken s stage isFirst depth} {rest : List Char}, At taken s stage →
    stage.depth = depth + 1 → stage.rest = memberChars isFirst members ++ '\x7d' :: rest →
    (isFirst = true → stage.keyAllowed = true) →
    Reaches taken s
      ⟨stage.seen ++ (memberLexemes isFirst members ++ [.flowMappingEnd]), rest, depth, false, none⟩
  | [], _, _, _, _, _, _, _, here, inside, text, _ => here.closes text .mapping inside
  | (name, j) :: members, ⟨key, legible, others⟩, _, _, stage, isFirst, depth, rest, here, inside,
      text, allowed => by
    have inFlow : 0 < stage.depth := by
      rw [inside]
      exact Nat.succ_pos _
    rw [memberChars, List.append_assoc] at text
    refine (scan_comma here text allowed).trans fun there => ?_
    have pending : ∀ n ∈ some (stage.seen ++ entrySign isFirst).length,
        n = (stage.seen ++ entrySign isFirst).length ∧ true = true ∧
          (quotedText name).length ≤ Yaml.Scanner.longestKey := by
      rintro _ ⟨rfl⟩
      exact ⟨rfl, rfl, key.2⟩
    refine (scan_text there key.1 (List.append_assoc ..) pending).trans fun named => ?_
    refine (named.colon rfl inFlow rfl rfl).trans fun valued => ?_
    refine (scan j legible valued inFlow (List.append_assoc ..) (endsWord_members rest rfl)).trans
      fun behind => ?_
    have closed := scanMembers members others behind inside rfl nofun
    rw [memberLexemes]
    simpa only [List.append_assoc, List.cons_append, List.nil_append] using closed

end

end

/-- The tokens of an object's text, with or without a line break at its end. -/
theorem ofChars_object {members : List (String × Json)} (legible : LegibleMembers members)
    {ending : List Char} (ends : ending = [] ∨ ending = ['\n']) :
    ∃ tokens, Yaml.TokenStream.ofChars ((object members).chars ++ ending) = ⟨tokens, none⟩ ∧
      tokens.map Yaml.Token.lexeme = .streamStart :: ((object members).lexemes ++ [.streamEnd]) := by
  have shape : (object members).chars ++ ending =
      '\x7b' :: (memberChars true members ++ '\x7d' :: ending) := by
    rw [chars]
    simp
  obtain ⟨taken, s, inside, started⟩ :=
    Yaml.start_mapping (memberChars true members ++ '\x7d' :: ending)
  obtain ⟨taken', s', turns, behind, count, run⟩ :=
    scanMembers members legible inside rfl rfl fun _ => rfl
  rw [inside.rest] at count
  have room : turns ≤ (memberChars true members ++ '\x7d' :: ending).length :=
    Nat.le_trans (Nat.le_add_left ..) count
  obtain ⟨spare, fuel⟩ : ∃ spare, (memberChars true members ++ '\x7d' :: ending).length + 2 =
      spare + 2 + turns :=
    ⟨(memberChars true members ++ '\x7d' :: ending).length - turns, by omega⟩
  obtain ⟨tokens, finished, lexemes_eq⟩ := behind.finish ends spare
  refine ⟨tokens, ?_, ?_⟩
  · rw [shape, Yaml.TokenStream.ofChars, List.length_cons, Nat.add_right_comm, started, fuel, run,
      finished]
  · rw [lexemes_eq, lexemes]
    simp

end Json

end TopicGateway
