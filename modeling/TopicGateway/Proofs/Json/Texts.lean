import TopicGateway.Json.Printer
import TopicGateway.Json.Reader

/-! A text is read back from between its quotes. The reader undoes the escapes byte by byte, so it
has the same bytes in hand that were written. -/
namespace TopicGateway.Json

-- Each branch of the reader has a lemma, and the others cite these.
attribute [local simp] textBytes

/-- A control character is written as a code point below 32. -/
theorem hexUnit?_control : ∀ n : Fin 32,
    hexUnit? 0x30 0x30 (hexDigit (n.val / 16)) (hexDigit (n.val % 16)) = some n.val ∧
      isTrailing n.val = false ∧ isLeading n.val = false ∧
      utf8Reversed n.val = [UInt8.ofNat n.val] := by
  decide

theorem textBytes_control {b : UInt8} (control : b < 0x20) (seen rest : List UInt8) :
    textBytes seen ([0x5c, 0x75, 0x30, 0x30, hexDigit (b.toNat / 16), hexDigit (b.toNat % 16)] ++
      rest) = textBytes (b :: seen) rest := by
  have small : b.toNat < 32 := UInt8.lt_iff_toNat_lt.1 control
  obtain ⟨unit, trailing, leading, utf8⟩ := hexUnit?_control ⟨b.toNat, small⟩
  simp only at unit trailing leading utf8
  simp [textBytes, unit, trailing, leading, utf8]

theorem textBytes_escape {e b : UInt8} (stands : simpleEscape? e = some b) (other : e ≠ 0x75)
    (seen rest : List UInt8) : textBytes seen (0x5c :: e :: rest) = textBytes (b :: seen) rest := by
  rw [textBytes]
  · simp [stands]
  · simp [other]
  · simp [other]

theorem textBytes_plain {b : UInt8} (quote : b ≠ 0x22) (backslash : b ≠ 0x5c) (text : ¬b < 0x20)
    (seen rest : List UInt8) : textBytes seen (b :: rest) = textBytes (b :: seen) rest := by
  rw [textBytes]
  · simp [text]
  all_goals simp_all

/-- A byte is written with a letter for it, as a code point, or as it is. -/
theorem escapeByte_cases (b : UInt8) :
    (∃ e, e ≠ 0x75 ∧ simpleEscape? e = some b ∧ escapeByte b = [0x5c, e]) ∨
    (b < 0x20 ∧ escapeByte b =
      [0x5c, 0x75, 0x30, 0x30, hexDigit (b.toNat / 16), hexDigit (b.toNat % 16)]) ∨
    (b ≠ 0x22 ∧ b ≠ 0x5c ∧ ¬b < 0x20 ∧ escapeByte b = [b]) := by
  unfold escapeByte
  split
  · next eq => exact .inl ⟨0x22, by decide, by rw [eq]; rfl, rfl⟩
  split
  · next eq => exact .inl ⟨0x5c, by decide, by rw [eq]; rfl, rfl⟩
  split
  · next eq => exact .inl ⟨0x62, by decide, by rw [eq]; rfl, rfl⟩
  split
  · next eq => exact .inl ⟨0x74, by decide, by rw [eq]; rfl, rfl⟩
  split
  · next eq => exact .inl ⟨0x6e, by decide, by rw [eq]; rfl, rfl⟩
  split
  · next eq => exact .inl ⟨0x66, by decide, by rw [eq]; rfl, rfl⟩
  split
  · next eq => exact .inl ⟨0x72, by decide, by rw [eq]; rfl, rfl⟩
  split
  · next control => exact .inr (.inl ⟨control, rfl⟩)
  · exact .inr (.inr ⟨by assumption, by assumption, by assumption, rfl⟩)

/-- What one byte of a text is written as is read as that byte. -/
theorem textBytes_escapeByte (b : UInt8) (seen rest : List UInt8) :
    textBytes seen (escapeByte b ++ rest) = textBytes (b :: seen) rest := by
  rcases escapeByte_cases b with ⟨e, other, stands, written⟩ | ⟨control, written⟩ |
    ⟨quote, backslash, text, written⟩
  · rw [written]
    exact textBytes_escape stands other seen rest
  · rw [written]
    exact textBytes_control control seen rest
  · rw [written]
    exact textBytes_plain quote backslash text seen rest

theorem textBytes_escape_append (bs seen tail : List UInt8) :
    textBytes seen (escape bs (0x22 :: tail)) = .ok (seen.reverse ++ bs, tail) := by
  induction bs generalizing seen with
  | nil => simp [escape, textBytes]
  | cons b bs ih =>
    have rest := ih (b :: seen)
    simp only [escape, List.foldr_cons] at rest ⊢
    rw [textBytes_escapeByte, rest]
    simp

/-- Reading a text whose opening quote is gone gives the text and what follows its closing quote. -/
theorem readText_escape (s : String) (tail : List UInt8) :
    readText (escape (Text.Utf8.encode s) (0x22 :: tail)) = .ok (s, tail) := by
  have bytes := textBytes_escape_append (Text.Utf8.encode s) [] tail
  rw [List.reverse_nil, List.nil_append] at bytes
  simp only [readText, bytes, Text.Utf8.decode?_encode]

theorem scalar_string (s : String) (tail : List UInt8) :
    scalar 0x22 (escape (Text.Utf8.encode s) (0x22 :: tail)) = .ok (.string s, tail) := by
  simp [scalar, readText_escape, Except.map]

end TopicGateway.Json
