import TopicGateway.Proofs.Json.Steps

/-! What the reader of values accepts, as a relation without a count of steps. The later facts about
reading are inductions on it; none of them opens the reader again. -/
namespace TopicGateway.Json

/-- A scalar by its first byte, the input behind that byte, and the rest. -/
inductive Spelt : UInt8 → List UInt8 → Json → List UInt8 → Prop
  | null {input rest} (letters : word () nullTail input = .ok ((), rest)) :
      Spelt 0x6e input .null rest
  | true {input rest} (letters : word () trueTail input = .ok ((), rest)) :
      Spelt 0x74 input (.bool true) rest
  | false {input rest} (letters : word () falseTail input = .ok ((), rest)) :
      Spelt 0x66 input (.bool false) rest
  | text {input s rest} (read : readText input = .ok (s, rest)) :
      Spelt 0x22 input (.string s) rest
  | negative {input n rest} (read : readNumber true input = .ok (n, rest)) :
      Spelt 0x2d input (.number n) rest
  | unsigned {b input n rest} (first : isDigit b = true)
      (read : readNumber false (b :: input) = .ok (n, rest)) : Spelt b input (.number n) rest

theorem eq_of_word {α : Type} {meaning a : α} {letters input rest : List UInt8}
    (spelt : word meaning letters input = .ok (a, rest)) :
    a = meaning ∧ word () letters input = .ok ((), rest) := by
  induction letters generalizing input with
  | nil =>
    cases spelt
    exact ⟨rfl, rfl⟩
  | cons letter letters ih =>
    cases input with
    | nil => cases spelt
    | cons b input =>
      rw [word] at spelt ⊢
      split at spelt
      · next same =>
        rw [if_pos same]
        exact ih spelt
      · cases spelt

theorem eq_of_map {α β : Type} {f : α → β} {x : Answer α} {b : β} {rest : List UInt8}
    (read : (x.map fun (a, rest) => (f a, rest)) = .ok (b, rest)) :
    ∃ a, x = .ok (a, rest) ∧ b = f a := by
  cases x with
  | error e => cases read
  | ok answer =>
    cases read
    exact ⟨answer.1, rfl, rfl⟩

theorem spelt_of_scalar {b : UInt8} {input rest : List UInt8} {j : Json}
    (read : scalar b input = .ok (j, rest)) : Spelt b input j rest := by
  unfold scalar at read
  split at read
  · next first =>
    obtain ⟨rfl, letters⟩ := eq_of_word read
    exact first ▸ .null letters
  split at read
  · next first =>
    obtain ⟨rfl, letters⟩ := eq_of_word read
    exact first ▸ .true letters
  split at read
  · next first =>
    obtain ⟨rfl, letters⟩ := eq_of_word read
    exact first ▸ .false letters
  split at read
  · next first =>
    obtain ⟨s, text, rfl⟩ := eq_of_map read
    exact first ▸ .text text
  split at read
  · next first =>
    obtain ⟨n, number, rfl⟩ := eq_of_map read
    exact first ▸ .negative number
  split at read
  · next first =>
    obtain ⟨n, number, rfl⟩ := eq_of_map read
    exact .unsigned first number
  · cases read

/-- What a stretch of input holds: a value, the items of a list or the members of an object. -/
inductive Piece where
  | value (j : Json)
  | items (items : List Json)
  | members (members : List (String × Json))

/-- `Reads depth input piece rest`: the piece stands at the start of the input, in no more than
`depth` levels, and the rest follows it. Items and members end with the bracket that closes them;
what stands between two of them, or behind an opening bracket, is not the closing one. -/
inductive Reads : Nat → List UInt8 → Piece → List UInt8 → Prop
  | scalar {depth input b tail j rest} (first : skipBlank input = b :: tail)
      (read : Json.scalar b tail = .ok (j, rest)) : Reads depth input (.value j) rest
  | noItems {depth input tail rest} (bracket : skipBlank input = 0x5b :: tail)
      (close : skipBlank tail = 0x5d :: rest) : Reads (depth + 1) input (.value (.array [])) rest
  | list {depth input tail c inner items rest} (bracket : skipBlank input = 0x5b :: tail)
      (start : skipBlank tail = c :: inner) (more : c ≠ 0x5d)
      (inside : Reads depth (c :: inner) (.items items) rest) :
      Reads (depth + 1) input (.value (.array items)) rest
  | noMembers {depth input tail rest} (bracket : skipBlank input = 0x7b :: tail)
      (close : skipBlank tail = 0x7d :: rest) : Reads (depth + 1) input (.value (.object [])) rest
  | object {depth input tail c inner members rest} (bracket : skipBlank input = 0x7b :: tail)
      (start : skipBlank tail = c :: inner) (more : c ≠ 0x7d)
      (inside : Reads depth (c :: inner) (.members members) rest) :
      Reads (depth + 1) input (.value (.object members)) rest
  | lastItem {depth input j tail rest} (item : Reads depth input (.value j) tail)
      (close : skipBlank tail = 0x5d :: rest) : Reads depth input (.items [j]) rest
  | nextItem {depth input j tail behind c next items rest}
      (item : Reads depth input (.value j) tail) (comma : skipBlank tail = 0x2c :: behind)
      (start : skipBlank behind = c :: next) (more : c ≠ 0x5d)
      (others : Reads depth (c :: next) (.items items) rest) :
      Reads depth input (.items (j :: items)) rest
  | lastMember {depth input name value j tail rest} (named : memberName input = .ok (name, value))
      (item : Reads depth value (.value j) tail) (close : skipBlank tail = 0x7d :: rest) :
      Reads depth input (.members [(name, j)]) rest
  | nextMember {depth input name value j tail behind c next members rest}
      (named : memberName input = .ok (name, value)) (item : Reads depth value (.value j) tail)
      (comma : skipBlank tail = 0x2c :: behind) (start : skipBlank behind = c :: next)
      (more : c ≠ 0x7d) (others : Reads depth (c :: next) (.members members) rest) :
      Reads depth input (.members ((name, j) :: members)) rest

/-- What the three readers answer within a count of steps is in the relation. -/
structure Sound (fuel : Nat) : Prop where
  value : ∀ {depth input j rest}, valueWithin fuel depth input = .ok (j, rest) →
    Reads depth input (.value j) rest
  items : ∀ {depth seen input j rest}, itemsWithin fuel depth seen input = .ok (j, rest) →
    ∃ items, j = .array (seen.reverse ++ items) ∧ Reads depth input (.items items) rest
  members : ∀ {depth seen input j rest}, membersWithin fuel depth seen input = .ok (j, rest) →
    ∃ members, j = .object (seen.reverse ++ members) ∧ Reads depth input (.members members) rest

variable {fuel depth : Nat} {input rest : List UInt8} {j : Json}

theorem sound_value (sound : Sound fuel) (read : valueWithin (fuel + 1) depth input = .ok (j, rest)) :
    Reads depth input (.value j) rest := by
  rw [valueWithin] at read
  split at read
  · cases read
  · next b tail first =>
    split at read
    · next bracket =>
      subst bracket
      split at read
      · cases read
      · next depth =>
        split at read
        · cases read
        · next c behind inside =>
          split at read
          · next close =>
            cases read
            exact .noItems first (by rw [inside, close])
          · next other =>
            obtain ⟨items, rfl, reads⟩ := sound.items read
            exact .list first inside other reads
    · split at read
      · next bracket =>
        subst bracket
        split at read
        · cases read
        · next depth =>
          split at read
          · cases read
          · next c behind inside =>
            split at read
            · next close =>
              cases read
              exact .noMembers first (by rw [inside, close])
            · next other =>
              obtain ⟨members, rfl, reads⟩ := sound.members read
              exact .object first inside other reads
      · exact .scalar first read

theorem sound_items (sound : Sound fuel) {seen : List Json}
    (read : itemsWithin (fuel + 1) depth seen input = .ok (j, rest)) :
    ∃ items, j = .array (seen.reverse ++ items) ∧ Reads depth input (.items items) rest := by
  rw [itemsWithin] at read
  split at read
  · cases read
  · next j tail value =>
    have item := sound.value value
    split at read
    · cases read
    · next b behind after =>
      split at read
      · next comma =>
        subst comma
        split at read
        · cases read
        · next c next start =>
          split at read
          · cases read
          · next other =>
            obtain ⟨items, rfl, reads⟩ := sound.items read
            refine ⟨j :: items, by simp, ?_⟩
            exact .nextItem item after start other reads
      · split at read
        · next close =>
          cases read
          exact ⟨[j], by simp, .lastItem item (by rw [after, close])⟩
        · cases read

theorem sound_members (sound : Sound fuel) {seen : List (String × Json)}
    (read : membersWithin (fuel + 1) depth seen input = .ok (j, rest)) :
    ∃ members, j = .object (seen.reverse ++ members) ∧
      Reads depth input (.members members) rest := by
  rw [membersWithin] at read
  split at read
  · cases read
  · next name input named =>
    split at read
    · cases read
    · next j tail value =>
      have item := sound.value value
      split at read
      · cases read
      · next b behind after =>
        split at read
        · next comma =>
          subst comma
          split at read
          · cases read
          · next c next start =>
            split at read
            · cases read
            · next other =>
              obtain ⟨members, rfl, reads⟩ := sound.members read
              refine ⟨(name, j) :: members, by simp, ?_⟩
              exact .nextMember named item after start other reads
        · split at read
          · next close =>
            cases read
            exact ⟨[(name, j)], by simp, .lastMember named item (by rw [after, close])⟩
          · cases read

theorem sound (fuel : Nat) : Sound fuel := by
  induction fuel with
  | zero =>
    constructor
    · intro depth input j rest read
      cases read
    · intro depth seen input j rest read
      cases read
    · intro depth seen input j rest read
      cases read
  | succ fuel ih => exact ⟨sound_value ih, sound_items ih, sound_members ih⟩

/-- From some count of steps on it holds. -/
def Eventually (P : Nat → Prop) : Prop :=
  ∃ least, ∀ fuel, least ≤ fuel → P fuel

namespace Eventually

variable {P Q : Nat → Prop}

theorem and (first : Eventually P) (second : Eventually Q) :
    Eventually fun fuel => P fuel ∧ Q fuel := by
  obtain ⟨n, first⟩ := first
  obtain ⟨m, second⟩ := second
  exact ⟨max n m, fun fuel enough => ⟨first fuel (by omega), second fuel (by omega)⟩⟩

/-- What follows with one step more. -/
theorem step (before : Eventually P) (next : ∀ fuel, P fuel → Q (fuel + 1)) : Eventually Q := by
  obtain ⟨n, before⟩ := before
  refine ⟨n + 1, fun fuel enough => ?_⟩
  obtain ⟨less, rfl⟩ := Nat.exists_eq_add_one.2 (Nat.zero_lt_of_lt enough)
  exact next less (before less (Nat.le_of_succ_le_succ enough))

theorem of_succ (next : ∀ fuel, P (fuel + 1)) : Eventually P :=
  step (P := fun _ => True) ⟨0, fun _ _ => trivial⟩ fun fuel _ => next fuel

end Eventually

/-- What the reader of such pieces answers within a count of steps. -/
def Piece.ReadWithin (fuel depth : Nat) (input rest : List UInt8) : Piece → Prop
  | .value j => valueWithin fuel depth input = .ok (j, rest)
  | .items js => ∀ seen,
      itemsWithin fuel depth seen input = .ok (.array (seen.reverse ++ js), rest)
  | .members ms => ∀ seen,
      membersWithin fuel depth seen input = .ok (.object (seen.reverse ++ ms), rest)

theorem Reads.readWithin {piece : Piece} (reads : Reads depth input piece rest) :
    Eventually fun fuel => piece.ReadWithin fuel depth input rest := by
  have brace : ¬(0x7b : UInt8) = 0x5b := by decide
  have listEnd : ¬(0x5d : UInt8) = 0x2c := by decide
  have objectEnd : ¬(0x7d : UInt8) = 0x2c := by decide
  induction reads with
  | scalar first read =>
    obtain ⟨_, list, object⟩ := Starts.of_scalar read
    refine .of_succ fun fuel => ?_
    simp only [Piece.ReadWithin, valueWithin, first, if_neg list, if_neg object, read]
  | noItems first close =>
    refine .of_succ fun fuel => ?_
    simp only [Piece.ReadWithin, valueWithin, first, close, if_true]
  | noMembers first close =>
    refine .of_succ fun fuel => ?_
    simp only [Piece.ReadWithin, valueWithin, first, close, if_neg brace, if_true]
  | list first start more _ inside =>
    refine inside.step fun fuel items => ?_
    simp only [Piece.ReadWithin, valueWithin, first, start, if_true, if_neg more, items []]
    rfl
  | object first start more _ inside =>
    refine inside.step fun fuel members => ?_
    simp only [Piece.ReadWithin, valueWithin, first, start, if_neg brace, if_true, if_neg more,
      members []]
    rfl
  | lastItem _ close item =>
    refine item.step fun fuel value seen => ?_
    have value : valueWithin fuel _ _ = _ := value
    simp only [itemsWithin, value, close, if_neg listEnd, if_true, List.reverse_cons]
  | nextItem _ comma start more _ item others =>
    refine (item.and others).step ?_
    rintro fuel ⟨value, items⟩ seen
    have value : valueWithin fuel _ _ = _ := value
    have items : ∀ seen, itemsWithin fuel _ seen _ = _ := items
    simp only [itemsWithin, value, comma, start, if_true, if_neg more, items]
    simp
  | lastMember named _ close item =>
    refine item.step fun fuel value seen => ?_
    have value : valueWithin fuel _ _ = _ := value
    simp only [membersWithin, named, value, close, if_neg objectEnd, if_true, List.reverse_cons]
  | nextMember named _ comma start more _ item others =>
    refine (item.and others).step ?_
    rintro fuel ⟨value, members⟩ seen
    have value : valueWithin fuel _ _ = _ := value
    have members : ∀ seen, membersWithin fuel _ seen _ = _ := members
    simp only [membersWithin, named, value, comma, start, if_true, if_neg more, members]
    simp

/-- One input holds one value in front of one rest. -/
theorem Reads.unique {k : Json} {tail : List UInt8} (first : Reads depth input (.value j) rest)
    (second : Reads depth input (.value k) tail) : j = k ∧ rest = tail := by
  obtain ⟨fuel, both⟩ := first.readWithin.and second.readWithin
  obtain ⟨first, second⟩ := both fuel (Nat.le_refl _)
  have same : (.ok (j, rest) : Answer Json) = .ok (k, tail) := first.symm.trans second
  cases same
  exact ⟨rfl, rfl⟩

theorem reads_of_readValue (read : readValue depth input = .ok (j, rest)) :
    Reads depth input (.value j) rest :=
  (sound _).value read

theorem of_onlyBlankLeft {α : Type} {answer : Answer α} {a : α}
    (read : onlyBlankLeft answer = .ok a) : ∃ rest, answer = .ok (a, rest) := by
  unfold onlyBlankLeft at read
  split at read
  · cases read
  · split at read
    · cases read
      exact ⟨_, rfl⟩
    · cases read

end TopicGateway.Json
