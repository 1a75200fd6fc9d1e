import TopicGateway.Json.Record
import TopicGateway.Proofs.Json.RoundTrip

/-! Reading a record from an object that was written: each member goes to the field of its name, and
what the field's reader answers decides how it goes on. -/
namespace TopicGateway.Json

theorem fieldName_writeString (name : String) (rest : List UInt8) :
    fieldName (writeString name rest) = .ok (name, rest) := by
  simp only [fieldName, writeString, if_true, readText_escape]

theorem readParsed_writeString {α : Type} (expected : String) {parse : String → Except String α}
    {s : String} {a : α} (parsed : parse s = .ok a) (tail : List UInt8) :
    readParsed expected parse (writeString s tail) = .ok (a, tail) := by
  have quote : skipBlank (writeString s tail) = writeString s tail := skipBlank_cons (by decide) _
  rw [readParsed, quote]
  simp only [writeString, if_true, readText_escape, parsed]

theorem readString_writeString (s : String) (tail : List UInt8) :
    readString (writeString s tail) = .ok (s, tail) :=
  readParsed_writeString _ rfl tail

def textMember (name s : String) (rest : List UInt8) : List UInt8 :=
  writeString name (0x3a :: writeString s (0x2c :: rest))

theorem starts_textMember (name s : String) (rest : List UInt8) :
    Starts (textMember name s rest) :=
  starts_writeString name _

theorem length_textMember (name s : String) (rest : List UInt8) :
    rest.length < (textMember name s rest).length := by
  have value := length_writeString s (0x2c :: rest)
  have whole := length_writeString name (0x3a :: writeString s (0x2c :: rest))
  rw [textMember]
  simp only [List.length_cons] at value whole
  omega

section Fields

variable {σ : Type} {fields : List (Field σ)} {field : Field σ} {name : String}
variable {depth fuel : Nat} {given : List String} {record next : σ}
variable {input rest tail : List UInt8} {e : Failure}

theorem fieldsWithin_next (found : fields.find? (·.name = name) = some field)
    (new : given.contains name = false)
    (read : field.read depth record input = .ok (next, 0x2c :: rest)) (starts : Starts rest) :
    fieldsWithin fields depth (fuel + 1) given record (writeString name (0x3a :: input)) =
      fieldsWithin fields depth fuel (name :: given) next rest := by
  obtain ⟨b, after, rfl, visible, _, close⟩ := starts
  have mark : colon (0x3a :: input) = .ok input := rfl
  have comma : skipBlank (0x2c :: b :: after) = 0x2c :: b :: after := rfl
  simp only [fieldsWithin, fieldName_writeString, found, new, Bool.false_eq_true, if_false, mark,
    read, Except.map, comma, if_true, skipBlank_cons visible, if_neg close]

theorem fieldsWithin_textMember {s : String} (found : fields.find? (·.name = name) = some field)
    (new : given.contains name = false)
    (read : ∀ rest, field.read depth record (writeString s rest) = .ok (next, rest))
    (starts : Starts rest) :
    fieldsWithin fields depth (fuel + 1) given record (textMember name s rest) =
      fieldsWithin fields depth fuel (name :: given) next rest :=
  fieldsWithin_next found new (read _) starts

theorem fieldsWithin_last (found : fields.find? (·.name = name) = some field)
    (new : given.contains name = false)
    (read : field.read depth record input = .ok (next, 0x7d :: tail)) :
    fieldsWithin fields depth (fuel + 1) given record (writeString name (0x3a :: input)) =
      .ok ((name :: given, next), tail) := by
  have mark : colon (0x3a :: input) = .ok input := rfl
  simp only [fieldsWithin, fieldName_writeString, found, new, Bool.false_eq_true, if_false, mark,
    read, Except.map]
  rfl

theorem fieldsWithin_error (found : fields.find? (·.name = name) = some field)
    (new : given.contains name = false) (read : field.read depth record input = .error e) :
    fieldsWithin fields depth (fuel + 1) given record (writeString name (0x3a :: input)) =
      .error e := by
  have mark : colon (0x3a :: input) = .ok input := rfl
  simp only [fieldsWithin, fieldName_writeString, found, new, Bool.false_eq_true, if_false, mark,
    read, Except.map]

variable {r : Record σ}

theorem Record.read_ok {all : List String} (starts : Starts input)
    (read : fieldsWithin r.fields depth (input.length + 1) [] record input = .ok ((all, next), tail))
    (given : r.fields.find? (fun f => f.required && !all.contains f.name) = none) :
    r.read (depth + 1) record (0x7b :: input) = .ok (next, tail) := by
  obtain ⟨b, after, rfl, visible, _, close⟩ := starts
  have brace : skipBlank (0x7b :: b :: after) = 0x7b :: b :: after := rfl
  simp only [Record.read, brace, if_true, fromObject, skipBlank_cons visible, if_neg close, read,
    complete, given]

theorem Record.read_error (starts : Starts input)
    (read : fieldsWithin r.fields depth (input.length + 1) [] record input = .error e) :
    r.read (depth + 1) record (0x7b :: input) = .error e := by
  obtain ⟨b, after, rfl, visible, _, close⟩ := starts
  have brace : skipBlank (0x7b :: b :: after) = 0x7b :: b :: after := rfl
  simp only [Record.read, brace, if_true, fromObject, skipBlank_cons visible, if_neg close, read]

end Fields

end TopicGateway.Json
