import TopicGateway.Proofs.Json.Rereading
import TopicGateway.Proofs.Json.Steps

/-! Reading a written value gives it back, members in their order and doubles as they are read, exactly
when it is not nested deeper than is allowed. The induction is on the value; the count of steps is covered because every
list or object has two bytes of its own and every item at least one. -/
namespace TopicGateway.Json

theorem escape_append (bs tail : List UInt8) : escape bs tail = escape bs [] ++ tail := by
  induction bs with
  | nil => rfl
  | cons b bs ih =>
    simp only [escape, List.foldr_cons, List.append_assoc] at ih ⊢
    rw [ih]

theorem writeString_append (s : String) (tail : List UInt8) :
    writeString s tail = writeString s [] ++ tail := by
  rw [writeString, writeString, escape_append, escape_append _ [0x22]]
  simp

theorem writeItems_cons (j : Json) {items : List Json} (more : items ≠ []) (tail : List UInt8) :
    writeItems (j :: items) tail = j.write (0x2c :: writeItems items tail) := by
  rw [writeItems]
  exact more

theorem writeMembers_cons (name : String) (j : Json) {members : List (String × Json)}
    (more : members ≠ []) (tail : List UInt8) :
    writeMembers ((name, j) :: members) tail =
      writeString name (0x3a :: j.write (0x2c :: writeMembers members tail)) := by
  rw [writeMembers]
  exact more

mutual

theorem write_append : (j : Json) → (tail : List UInt8) → j.write tail = j.write [] ++ tail
  | .null, _ | .bool true, _ | .bool false, _ | .number _, _ => by simp [write]
  | .string s, tail => by
    rw [write, write, writeString_append]
  | .array items, tail => by
    rw [write, write, writeItems_append items (0x5d :: tail), writeItems_append items [0x5d]]
    simp
  | .object members, tail => by
    rw [write, write, writeMembers_append members (0x7d :: tail),
      writeMembers_append members [0x7d]]
    simp

theorem writeItems_append : (items : List Json) → (tail : List UInt8) →
    writeItems items tail = writeItems items [] ++ tail
  | [], _ => rfl
  | [j], tail => by
    rw [writeItems, writeItems]
    exact write_append j tail
  | j :: k :: items, tail => by
    have more : k :: items ≠ [] := List.cons_ne_nil _ _
    rw [writeItems_cons j more, writeItems_cons j more, write_append j,
      write_append j (0x2c :: writeItems (k :: items) []), writeItems_append (k :: items) tail]
    simp

theorem writeMembers_append : (members : List (String × Json)) → (tail : List UInt8) →
    writeMembers members tail = writeMembers members [] ++ tail
  | [], _ => rfl
  | [(name, j)], tail => by
    rw [writeMembers, writeMembers, writeString_append, writeString_append name (0x3a :: _),
      write_append j tail]
    simp
  | (name, j) :: m :: members, tail => by
    have more : m :: members ≠ [] := List.cons_ne_nil _ _
    rw [writeMembers_cons name j more, writeMembers_cons name j more,
      writeString_append name (0x3a :: j.write (0x2c :: writeMembers (m :: members) tail)),
      writeString_append name (0x3a :: j.write (0x2c :: writeMembers (m :: members) [])),
      write_append j (0x2c :: writeMembers (m :: members) tail),
      write_append j (0x2c :: writeMembers (m :: members) []),
      writeMembers_append (m :: members) tail]
    simp

end

theorem starts_writeString (s : String) (tail : List UInt8) : Starts (writeString s tail) :=
  ⟨0x22, _, rfl, by decide⟩

theorem starts_write (j : Json) (tail : List UInt8) : Starts (j.write tail) := by
  cases j with
  | null => exact ⟨0x6e, _, rfl, by decide⟩
  | bool b =>
    cases b with
    | true => exact ⟨0x74, _, rfl, by decide⟩
    | false => exact ⟨0x66, _, rfl, by decide⟩
  | number n =>
    obtain ⟨b, rest, text, read⟩ := scalar_number n .nil
    have starts := (Starts.of_scalar read).1
    rw [← text, List.append_nil] at starts
    exact starts.append tail
  | string s => exact starts_writeString s tail
  | array items => exact ⟨0x5b, _, rfl, by decide⟩
  | object members => exact ⟨0x7b, _, rfl, by decide⟩

theorem length_write (j : Json) (tail : List UInt8) :
    tail.length < (j.write tail).length := by
  obtain ⟨b, rest, shape, _⟩ := starts_write j []
  rw [write_append, shape, List.length_append, List.length_cons]
  omega

theorem length_writeItems (items : List Json) (tail : List UInt8) :
    tail.length ≤ (writeItems items tail).length := by
  rw [writeItems_append, List.length_append]
  omega

theorem length_writeMembers (members : List (String × Json)) (tail : List UInt8) :
    tail.length ≤ (writeMembers members tail).length := by
  rw [writeMembers_append, List.length_append]
  omega

theorem length_writeString (s : String) (tail : List UInt8) :
    tail.length < (writeString s tail).length := by
  rw [writeString_append, List.length_append, writeString, List.length_cons]
  omega

/-- The steps that are left are enough for a value with these bytes in front of `tail`. -/
def Enough (fuel : Nat) (input tail : List UInt8) : Prop :=
  2 * input.length ≤ fuel + 2 * tail.length

theorem Enough.pos {fuel : Nat} {input tail : List UInt8} (enough : Enough fuel input tail)
    (longer : tail.length < input.length) : ∃ less, fuel = less + 1 := by
  refine ⟨fuel - 1, ?_⟩
  simp only [Enough] at enough
  omega

/-- After a step, enough are left for a value with a mark behind it. -/
theorem Enough.first {fuel : Nat} {input value rest tail : List UInt8}
    (enough : Enough (fuel + 1) input tail) (inside : value.length ≤ input.length)
    (behind : tail.length ≤ rest.length) (mark : UInt8) : Enough fuel value (mark :: rest) := by
  simp only [Enough, List.length_cons] at enough ⊢
  omega

/-- After a step, enough are left for what stands behind the first byte. -/
theorem Enough.later {fuel : Nat} {input rest tail : List UInt8}
    (enough : Enough (fuel + 1) input tail) (shorter : rest.length < input.length) :
    Enough fuel rest tail := by
  simp only [Enough] at enough ⊢
  omega

/-- What is enough for an item or a member, and for those behind it, is enough for its value first and
then for those. -/
theorem Enough.split {fuel : Nat} {j : Json} {mark : UInt8} {input rest tail : List UInt8}
    (enough : Enough fuel input tail) (inside : (j.write (mark :: rest)).length ≤ input.length)
    (behind : tail.length ≤ rest.length) : ∃ less, fuel = less + 1 ∧
      Enough less (j.write (mark :: rest)) (mark :: rest) ∧ Enough less rest tail := by
  have longer := length_write j (mark :: rest)
  rw [List.length_cons] at longer
  obtain ⟨less, rfl⟩ := enough.pos (by omega)
  exact ⟨less, rfl, enough.first inside behind mark, enough.later (by omega)⟩

/-- The value of a member is shorter than the member. -/
theorem length_value_le (name : String) (value : List UInt8) :
    value.length ≤ (writeString name (0x3a :: value)).length :=
  Nat.le_of_succ_le (Nat.le_of_lt (length_writeString name (0x3a :: value)))

theorem starts_writeItems {items : List Json} (nonempty : items ≠ []) (tail : List UInt8) :
    Starts (writeItems items tail) := by
  obtain ⟨j, rest, rfl⟩ := List.exists_cons_of_ne_nil nonempty
  cases rest with
  | nil => exact starts_write j tail
  | cons k rest =>
    rw [writeItems_cons j (List.cons_ne_nil _ _)]
    exact starts_write j _

theorem starts_writeMembers {members : List (String × Json)} (nonempty : members ≠ [])
    (tail : List UInt8) : Starts (writeMembers members tail) := by
  obtain ⟨⟨name, j⟩, rest, rfl⟩ := List.exists_cons_of_ne_nil nonempty
  cases rest with
  | nil => exact starts_writeString name _
  | cons m rest =>
    rw [writeMembers_cons name j (List.cons_ne_nil _ _)]
    exact starts_writeString name _

mutual

theorem valueWithin_write : (j : Json) → (fuel : Nat) → {depth : Nat} → {tail : List UInt8} →
    j.depth ≤ depth → EndsNumber tail → Enough fuel (j.write tail) tail →
    valueWithin fuel depth (j.write tail) = .ok (j.reread, tail)
  | .null, _, _, _, _, _, enough => by
    obtain ⟨less, rfl⟩ := enough.pos (length_write ..)
    exact valueWithin_scalar rfl
  | .bool true, _, _, _, _, _, enough => by
    obtain ⟨less, rfl⟩ := enough.pos (length_write ..)
    exact valueWithin_scalar rfl
  | .bool false, _, _, _, _, _, enough => by
    obtain ⟨less, rfl⟩ := enough.pos (length_write ..)
    exact valueWithin_scalar rfl
  | .number n, _, _, tail, _, ends, enough => by
    obtain ⟨less, rfl⟩ := enough.pos (length_write ..)
    obtain ⟨b, rest, text, read⟩ := scalar_number n ends
    rw [write, text]
    exact valueWithin_scalar read
  | .string s, _, _, tail, _, _, enough => by
    obtain ⟨less, rfl⟩ := enough.pos (length_write ..)
    exact valueWithin_scalar (scalar_string s tail)
  | .array items, _, depth, tail, shallow, _, enough => by
    obtain ⟨less, rfl⟩ := enough.pos (length_write ..)
    cases depth with
    | zero => cases shallow
    | succ depth =>
      by_cases empty : items = []
      · subst empty
        exact valueWithin_list_empty
      · have inside : depthItems items ≤ depth := Nat.le_of_succ_le_succ shallow
        have left : Enough less (writeItems items (0x5d :: tail)) tail :=
          enough.later (Nat.lt_succ_self _)
        rw [write, valueWithin_list (starts_writeItems empty _)]
        exact itemsWithin_write items empty less [] tail inside left
  | .object members, _, depth, tail, shallow, _, enough => by
    obtain ⟨less, rfl⟩ := enough.pos (length_write ..)
    cases depth with
    | zero => cases shallow
    | succ depth =>
      by_cases empty : members = []
      · subst empty
        exact valueWithin_object_empty
      · have inside : depthMembers members ≤ depth := Nat.le_of_succ_le_succ shallow
        have left : Enough less (writeMembers members (0x7d :: tail)) tail :=
          enough.later (Nat.lt_succ_self _)
        rw [write, valueWithin_object (starts_writeMembers empty _)]
        exact membersWithin_write members empty less [] tail inside left

theorem itemsWithin_write : (items : List Json) → items ≠ [] → (fuel : Nat) → {depth : Nat} →
    (seen : List Json) → (tail : List UInt8) → depthItems items ≤ depth →
    Enough fuel (writeItems items (0x5d :: tail)) tail →
    itemsWithin fuel depth seen (writeItems items (0x5d :: tail)) =
      .ok (.array (seen.reverse ++ rereadItems items), tail)
  | [j], _, _, depth, seen, tail, shallow, enough => by
    have inside : j.depth ≤ depth := Nat.le_trans (Nat.le_max_left ..) shallow
    rw [writeItems] at enough ⊢
    obtain ⟨less, rfl, value, _⟩ := enough.split (Nat.le_refl _) (Nat.le_refl _)
    have ends : EndsNumber (0x5d :: tail) := .cons (by decide) _
    have read := valueWithin_write j less inside ends value
    rw [itemsWithin_last read, List.reverse_cons]
    rfl
  | j :: k :: items, _, _, depth, seen, tail, shallow, enough => by
    have more : k :: items ≠ [] := List.cons_ne_nil _ _
    have inside : j.depth ≤ depth := Nat.le_trans (Nat.le_max_left ..) shallow
    have others : depthItems (k :: items) ≤ depth := Nat.le_trans (Nat.le_max_right ..) shallow
    have longer := length_writeItems (k :: items) (0x5d :: tail)
    rw [writeItems_cons j more] at enough ⊢
    obtain ⟨less, rfl, value, left⟩ := enough.split (Nat.le_refl _) (Nat.le_of_succ_le longer)
    have ends : EndsNumber (0x2c :: writeItems (k :: items) (0x5d :: tail)) :=
      .cons (by decide) _
    have read := valueWithin_write j less inside ends value
    have rest := itemsWithin_write (k :: items) more less (j.reread :: seen) tail others left
    rw [itemsWithin_next read (starts_writeItems more _), rest, List.reverse_cons, List.append_assoc]
    rfl

theorem membersWithin_write : (members : List (String × Json)) → members ≠ [] →
    (fuel : Nat) → {depth : Nat} → (given : List (String × Json)) → (tail : List UInt8) →
    depthMembers members ≤ depth → Enough fuel (writeMembers members (0x7d :: tail)) tail →
    membersWithin fuel depth given (writeMembers members (0x7d :: tail)) =
      .ok (.object (given.reverse ++ rereadMembers members), tail)
  | [(name, j)], _, _, depth, given, tail, shallow, enough => by
    have inside : j.depth ≤ depth := Nat.le_trans (Nat.le_max_left ..) shallow
    rw [writeMembers] at enough ⊢
    obtain ⟨less, rfl, value, _⟩ := enough.split (length_value_le ..) (Nat.le_refl _)
    have ends : EndsNumber (0x7d :: tail) := .cons (by decide) _
    have read := valueWithin_write j less inside ends value
    rw [membersWithin_last (memberName_writeString name _) read, List.reverse_cons]
    rfl
  | (name, j) :: m :: members, _, _, depth, given, tail, shallow, enough => by
    have more : m :: members ≠ [] := List.cons_ne_nil _ _
    have inside : j.depth ≤ depth := Nat.le_trans (Nat.le_max_left ..) shallow
    have others : depthMembers (m :: members) ≤ depth :=
      Nat.le_trans (Nat.le_max_right ..) shallow
    have longer := length_writeMembers (m :: members) (0x7d :: tail)
    rw [writeMembers_cons name j more] at enough ⊢
    obtain ⟨less, rfl, value, left⟩ := enough.split (length_value_le ..) (Nat.le_of_succ_le longer)
    have ends : EndsNumber (0x2c :: writeMembers (m :: members) (0x7d :: tail)) :=
      .cons (by decide) _
    have read := valueWithin_write j less inside ends value
    have rest := membersWithin_write (m :: members) more less ((name, j.reread) :: given) tail others
      left
    rw [membersWithin_next (memberName_writeString name _) read (starts_writeMembers more _), rest,
      List.reverse_cons, List.append_assoc]
    rfl

end

mutual

theorem valueWithin_tooDeep : (j : Json) → (fuel : Nat) → {depth : Nat} → (tail : List UInt8) →
    depth < j.depth → Enough fuel (j.write tail) tail →
    ∃ rest, valueWithin fuel depth (j.write tail) = .error ⟨.tooDeep, rest⟩
  | .null, _, _, _, deep, _ => absurd deep (Nat.not_lt_zero _)
  | .bool _, _, _, _, deep, _ => absurd deep (Nat.not_lt_zero _)
  | .number _, _, _, _, deep, _ => absurd deep (Nat.not_lt_zero _)
  | .string _, _, _, _, deep, _ => absurd deep (Nat.not_lt_zero _)
  | .array items, _, depth, tail, deep, enough => by
    obtain ⟨less, rfl⟩ := enough.pos (length_write ..)
    cases depth with
    | zero => exact ⟨_, valueWithin_list_tooDeep⟩
    | succ depth =>
      have inside : depth < depthItems items := Nat.lt_of_succ_lt_succ deep
      have nonempty : items ≠ [] := by
        rintro rfl
        exact absurd inside (Nat.not_lt_zero _)
      have left : Enough less (writeItems items (0x5d :: tail)) tail :=
        enough.later (Nat.lt_succ_self _)
      rw [write, valueWithin_list (starts_writeItems nonempty _)]
      exact itemsWithin_tooDeep items less [] tail inside left
  | .object members, _, depth, tail, deep, enough => by
    obtain ⟨less, rfl⟩ := enough.pos (length_write ..)
    cases depth with
    | zero => exact ⟨_, valueWithin_object_tooDeep⟩
    | succ depth =>
      have inside : depth < depthMembers members := Nat.lt_of_succ_lt_succ deep
      have nonempty : members ≠ [] := by
        rintro rfl
        exact absurd inside (Nat.not_lt_zero _)
      have left : Enough less (writeMembers members (0x7d :: tail)) tail :=
        enough.later (Nat.lt_succ_self _)
      rw [write, valueWithin_object (starts_writeMembers nonempty _)]
      exact membersWithin_tooDeep members less [] tail inside left

theorem itemsWithin_tooDeep : (items : List Json) → (fuel : Nat) → {depth : Nat} →
    (seen : List Json) → (tail : List UInt8) → depth < depthItems items →
    Enough fuel (writeItems items (0x5d :: tail)) tail →
    ∃ rest, itemsWithin fuel depth seen (writeItems items (0x5d :: tail)) =
      .error ⟨.tooDeep, rest⟩
  | [], _, _, _, _, deep, _ => absurd deep (Nat.not_lt_zero _)
  | [j], _, depth, seen, tail, deep, enough => by
    have inside : depth < j.depth := by simpa [depthItems] using deep
    rw [writeItems] at enough ⊢
    obtain ⟨less, rfl, value, _⟩ := enough.split (Nat.le_refl _) (Nat.le_refl _)
    obtain ⟨rest, read⟩ := valueWithin_tooDeep j less (0x5d :: tail) inside value
    exact ⟨rest, itemsWithin_error read⟩
  | j :: k :: items, _, depth, seen, tail, deep, enough => by
    have more : k :: items ≠ [] := List.cons_ne_nil _ _
    have longer := length_writeItems (k :: items) (0x5d :: tail)
    rw [writeItems_cons j more] at enough ⊢
    obtain ⟨less, rfl, value, left⟩ := enough.split (Nat.le_refl _) (Nat.le_of_succ_le longer)
    rcases Nat.lt_or_ge depth j.depth with here | shallow
    · obtain ⟨rest, read⟩ := valueWithin_tooDeep j less _ here value
      exact ⟨rest, itemsWithin_error read⟩
    · have read := valueWithin_write j less shallow (.cons (by decide) _) value
      have later : depth < depthItems (k :: items) := by
        rw [depthItems] at deep
        omega
      rw [itemsWithin_next read (starts_writeItems more _)]
      exact itemsWithin_tooDeep (k :: items) less (j.reread :: seen) tail later left

theorem membersWithin_tooDeep : (members : List (String × Json)) → (fuel : Nat) →
    {depth : Nat} → (given : List (String × Json)) → (tail : List UInt8) →
    depth < depthMembers members → Enough fuel (writeMembers members (0x7d :: tail)) tail →
    ∃ rest, membersWithin fuel depth given (writeMembers members (0x7d :: tail)) =
      .error ⟨.tooDeep, rest⟩
  | [], _, _, _, _, deep, _ => absurd deep (Nat.not_lt_zero _)
  | [(name, j)], _, depth, given, tail, deep, enough => by
    have inside : depth < j.depth := by simpa [depthMembers] using deep
    rw [writeMembers] at enough ⊢
    obtain ⟨less, rfl, value, _⟩ := enough.split (length_value_le ..) (Nat.le_refl _)
    obtain ⟨rest, read⟩ := valueWithin_tooDeep j less (0x7d :: tail) inside value
    exact ⟨rest, membersWithin_error (memberName_writeString name _) read⟩
  | (name, j) :: m :: members, _, depth, given, tail, deep, enough => by
    have more : m :: members ≠ [] := List.cons_ne_nil _ _
    have longer := length_writeMembers (m :: members) (0x7d :: tail)
    rw [writeMembers_cons name j more] at enough ⊢
    obtain ⟨less, rfl, value, left⟩ := enough.split (length_value_le ..) (Nat.le_of_succ_le longer)
    rcases Nat.lt_or_ge depth j.depth with here | shallow
    · obtain ⟨rest, read⟩ := valueWithin_tooDeep j less _ here value
      exact ⟨rest, membersWithin_error (memberName_writeString name _) read⟩
    · have read := valueWithin_write j less shallow (.cons (by decide) _) value
      have later : depth < depthMembers (m :: members) := by
        rw [depthMembers] at deep
        omega
      rw [membersWithin_next (memberName_writeString name _) read (starts_writeMembers more _)]
      exact membersWithin_tooDeep (m :: members) less ((name, j.reread) :: given) tail later left

end

/-- A written value is read back, its doubles as what they are read as. -/
theorem readValue_write {j : Json} {depth : Nat} {tail : List UInt8} (shallow : j.depth ≤ depth)
    (ends : EndsNumber tail) : readValue depth (j.write tail) = .ok (j.reread, tail) := by
  apply valueWithin_write j _ shallow ends
  simp only [Enough, steps]
  omega

theorem read_bytes {j : Json} (shallow : j.depth ≤ deepest) : read j.bytes = .ok j.reread := by
  rw [read, bytes, readValue_write shallow .nil]
  rfl

theorem readValue_tooDeep {j : Json} {depth : Nat} (deep : depth < j.depth) (tail : List UInt8) :
    ∃ rest, readValue depth (j.write tail) = .error ⟨.tooDeep, rest⟩ := by
  apply valueWithin_tooDeep j _ tail deep
  simp only [Enough, steps]
  omega

end TopicGateway.Json
