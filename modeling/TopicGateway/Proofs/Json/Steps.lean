import TopicGateway.Proofs.Json.Numbers
import TopicGateway.Proofs.Json.Texts

/-! What the readers of values, items and members do with input that starts without a blank. The
writer never writes one, so these are all the steps that reading back what was written takes. -/
namespace TopicGateway.Json

/-- The first byte is neither blank nor one that closes a list or an object. -/
def Starts (input : List UInt8) : Prop :=
  ∃ b rest, input = b :: rest ∧ isBlank b = false ∧ b ≠ 0x5d ∧ b ≠ 0x7d

theorem skipBlank_cons {b : UInt8} (visible : isBlank b = false) (rest : List UInt8) :
    skipBlank (b :: rest) = b :: rest := by
  simp [skipBlank, visible]

theorem Starts.append {input : List UInt8} (starts : Starts input) (tail : List UInt8) :
    Starts (input ++ tail) := by
  obtain ⟨b, rest, rfl, visible⟩ := starts
  exact ⟨b, rest ++ tail, rfl, visible⟩

theorem Starts.of_scalar {b : UInt8} {rest : List UInt8} {j : Json} {tail : List UInt8}
    (read : scalar b rest = .ok (j, tail)) :
    Starts (b :: rest) ∧ b ≠ 0x5b ∧ b ≠ 0x7b := by
  have none (x : UInt8) (fails : ∀ rest, scalar x rest = fail .expectedValue rest) : b ≠ x := by
    rintro rfl
    rw [fails] at read
    cases read
  have visible : isBlank b = false := by
    simp only [isBlank, Bool.or_eq_false_iff, beq_eq_false_iff_ne]
    exact ⟨⟨⟨none 0x20 fun _ => rfl, none 0x09 fun _ => rfl⟩, none 0x0a fun _ => rfl⟩,
      none 0x0d fun _ => rfl⟩
  exact ⟨⟨b, rest, rfl, visible, none 0x5d fun _ => rfl, none 0x7d fun _ => rfl⟩,
    none 0x5b fun _ => rfl, none 0x7b fun _ => rfl⟩

-- The readers are opened here, with one lemma for each step.
attribute [local simp] valueWithin itemsWithin membersWithin

variable {fuel depth : Nat} {input rest tail : List UInt8} {j : Json} {e : Failure}

theorem valueWithin_scalar {b : UInt8} (read : scalar b rest = .ok (j, tail)) :
    valueWithin (fuel + 1) depth (b :: rest) = .ok (j, tail) := by
  obtain ⟨⟨_, _, shape, visible, _⟩, list, object⟩ := Starts.of_scalar read
  obtain ⟨rfl, rfl⟩ := List.cons.inj shape
  simp only [valueWithin, skipBlank_cons visible, if_neg list, if_neg object, read]

theorem valueWithin_list_tooDeep :
    valueWithin (fuel + 1) 0 (0x5b :: rest) = .error ⟨.tooDeep, rest⟩ := by
  rfl

theorem valueWithin_list_empty :
    valueWithin (fuel + 1) (depth + 1) (0x5b :: 0x5d :: tail) = .ok (.array [], tail) := by
  rfl

theorem valueWithin_list (starts : Starts input) :
    valueWithin (fuel + 1) (depth + 1) (0x5b :: input) = itemsWithin fuel depth [] input := by
  obtain ⟨b, rest, rfl, visible, close, _⟩ := starts
  have bracket : skipBlank (0x5b :: b :: rest) = 0x5b :: b :: rest := rfl
  simp only [valueWithin, bracket, if_true, skipBlank_cons visible, if_neg close]

variable {seen : List Json}

theorem itemsWithin_error (read : valueWithin fuel depth input = .error e) :
    itemsWithin (fuel + 1) depth seen input = .error e := by
  simp only [itemsWithin, read]

theorem itemsWithin_last (read : valueWithin fuel depth input = .ok (j, 0x5d :: tail)) :
    itemsWithin (fuel + 1) depth seen input = .ok (.array (j :: seen).reverse, tail) := by
  rw [itemsWithin, read]
  rfl

theorem itemsWithin_next (read : valueWithin fuel depth input = .ok (j, 0x2c :: rest))
    (starts : Starts rest) :
    itemsWithin (fuel + 1) depth seen input = itemsWithin fuel depth (j :: seen) rest := by
  obtain ⟨b, rest, rfl, visible, close, _⟩ := starts
  have comma : skipBlank (0x2c :: b :: rest) = 0x2c :: b :: rest := rfl
  simp only [itemsWithin, read, comma, if_true, skipBlank_cons visible, if_neg close]

theorem valueWithin_object_tooDeep :
    valueWithin (fuel + 1) 0 (0x7b :: rest) = .error ⟨.tooDeep, rest⟩ := by
  rfl

theorem valueWithin_object_empty :
    valueWithin (fuel + 1) (depth + 1) (0x7b :: 0x7d :: tail) = .ok (.object [], tail) := by
  rfl

theorem valueWithin_object (starts : Starts input) :
    valueWithin (fuel + 1) (depth + 1) (0x7b :: input) = membersWithin fuel depth [] input := by
  obtain ⟨b, rest, rfl, visible, _, close⟩ := starts
  have bracket : skipBlank (0x7b :: b :: rest) = 0x7b :: b :: rest := rfl
  have other : ¬(0x7b : UInt8) = 0x5b := by decide
  simp only [valueWithin, bracket, if_neg other, if_true, skipBlank_cons visible, if_neg close]

variable {name : String} {given : List (String × Json)}

theorem memberName_writeString (name : String) (rest : List UInt8) :
    memberName (writeString name (0x3a :: rest)) = .ok (name, rest) := by
  simp only [memberName, writeString, if_true, readText_escape]
  rfl

theorem membersWithin_error (named : memberName input = .ok (name, rest))
    (read : valueWithin fuel depth rest = .error e) :
    membersWithin (fuel + 1) depth given input = .error e := by
  simp only [membersWithin, named, read]

theorem membersWithin_last (named : memberName input = .ok (name, rest))
    (read : valueWithin fuel depth rest = .ok (j, 0x7d :: tail)) :
    membersWithin (fuel + 1) depth given input =
      .ok (.object ((name, j) :: given).reverse, tail) := by
  simp only [membersWithin, named, read]
  rfl

theorem membersWithin_next {next : List UInt8} (named : memberName input = .ok (name, rest))
    (read : valueWithin fuel depth rest = .ok (j, 0x2c :: next)) (starts : Starts next) :
    membersWithin (fuel + 1) depth given input =
      membersWithin fuel depth ((name, j) :: given) next := by
  obtain ⟨b, after, rfl, visible, _, close⟩ := starts
  have comma : skipBlank (0x2c :: b :: after) = 0x2c :: b :: after := rfl
  simp only [membersWithin, named, read, comma, if_true, skipBlank_cons visible, if_neg close]

end TopicGateway.Json
