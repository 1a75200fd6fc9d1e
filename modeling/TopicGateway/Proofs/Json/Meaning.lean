import TopicGateway.Proofs.Json.Agreement
import TopicGateway.Proofs.Json.Passing

/-! A record whose fields may all be absent, read from the text of a value. What its fields make of
values gives what the whole record makes of the value, with the text out of sight: it is changed by
each known member or item in turn, or not read at all. -/
namespace TopicGateway.Json

/-- The answer is this result with the rest, or a failure where there is no result. -/
def Settles {α : Type} (answer : Answer α) (result : Option α) (rest : List UInt8) : Prop :=
  match result with
  | some a => answer = .ok (a, rest)
  | none => ∃ e, answer = .error e

theorem Settles.map {α β : Type} {answer : Answer α} {result : Option α} {rest : List UInt8}
    (settles : Settles answer result rest) (f : α → β) :
    Settles (answer.map fun (a, rest) => (f a, rest)) (result.map f) rest := by
  cases result with
  | some a =>
    have answered : answer = .ok (a, rest) := settles
    rw [answered]
    rfl
  | none =>
    obtain ⟨e, failed⟩ : ∃ e, answer = .error e := settles
    exact ⟨e, by rw [failed]; rfl⟩

theorem unexpected_settles {α : Type} (expected : String) (b : UInt8) (tail rest : List UInt8) :
    Settles (unexpected expected b tail : Answer α) none rest := by
  cases answer : (unexpected expected b tail : Answer α) with
  | error e => exact ⟨e, rfl⟩
  | ok a => exact absurd answer unexpected_ne_ok

variable {depth levels : Nat} {input rest : List UInt8} {j : Json}

def number? : Json → Option Number
  | .number n => some n
  | _ => none

def string? : Json → Option String
  | .string s => some s
  | _ => none

def itemStrings? : List Json → Option (List String)
  | [] => some []
  | j :: items => do return (← j.string?) :: (← itemStrings? items)

def strings? : Json → Option (List String)
  | .array items => itemStrings? items
  | _ => none

theorem ne_of_digit {b x : UInt8} (digit : isDigit b = true) (other : isDigit x = false) : b ≠ x := by
  rintro rfl
  rw [other] at digit
  cases digit

theorem readFloat_settles (reads : Reads levels input (.value j) rest) :
    Settles (readFloat input) (j.number?.map Number.toReal) rest := by
  have refused {b : UInt8} {tail : List UInt8} (first : skipBlank input = b :: tail)
      (minus : b ≠ 0x2d) (digit : isDigit b = false) : Settles (readFloat input) none rest := by
    simp only [readFloat, first, if_neg minus, digit, Bool.false_eq_true, if_false]
    exact unexpected_settles ..
  cases reads with
  | scalar first read =>
    cases spelt_of_scalar read with
    | null | true | false | text => exact refused first (by decide) (by decide)
    | negative number =>
      simp only [readFloat, first, if_true, number]
      rfl
    | unsigned digit number =>
      simp only [readFloat, first, if_neg (ne_of_digit digit (x := 0x2d) rfl), digit, if_true, number]
      rfl
  | noItems first | list first | noMembers first | object first =>
    exact refused first (by decide) (by decide)

theorem readString_settles (reads : Reads levels input (.value j) rest) :
    Settles (readString input) j.string? rest := by
  have refused {b : UInt8} {tail : List UInt8} (first : skipBlank input = b :: tail)
      (quote : b ≠ 0x22) : Settles (readString input) none rest := by
    simp only [readString, readParsed, first, if_neg quote]
    exact unexpected_settles ..
  cases reads with
  | scalar first read =>
    cases spelt_of_scalar read with
    | null | true | false | negative => exact refused first (by decide)
    | text text =>
      simp only [readString, readParsed, first, if_true, text]
      rfl
    | unsigned digit => exact refused first (ne_of_digit digit rfl)
  | noItems first | list first | noMembers first | object first => exact refused first (by decide)

theorem Reads.length_items {items : List Json} (reads : Reads depth input (.items items) rest) :
    items.length + rest.length ≤ input.length := by
  induction items generalizing input with
  | nil => cases reads
  | cons j items ih =>
    have whole := reads.length_lt
    rw [List.length_cons]
    cases reads with
    | lastItem =>
      rw [List.length_nil]
      omega
    | nextItem item comma start _ others =>
      have first := item.length_lt
      have behind := length_of_skipBlank comma
      have next := length_of_skipBlank start
      have later := ih others
      rw [List.length_cons] at later
      omega

theorem stringsWithin_settles {items : List Json} (reads : Reads levels input (.items items) rest)
    {fuel : Nat} (enough : items.length ≤ fuel) (seen : List String) :
    Settles (stringsWithin fuel seen input) ((itemStrings? items).map (seen.reverse ++ ·)) rest := by
  induction items generalizing input fuel seen with
  | nil => cases reads
  | cons j items ih =>
    obtain ⟨fuel, rfl⟩ := Nat.exists_eq_add_one.2 (Nat.zero_lt_of_lt enough)
    obtain ⟨tail, item⟩ : ∃ tail, Reads levels input (.value j) tail := by
      cases reads with
      | lastItem item | nextItem item => exact ⟨_, item⟩
    have first := readString_settles item
    rw [itemStrings?]
    cases text : j.string? with
    | none =>
      rw [text] at first
      obtain ⟨e, failed⟩ := first
      exact ⟨e, by rw [stringsWithin, failed]⟩
    | some s =>
      rw [text] at first
      have read : readString input = .ok (s, tail) := first
      cases reads with
      | lastItem item' close =>
        obtain ⟨_, rfl⟩ := item.unique item'
        simp only [stringsWithin, read, close]
        simp [Settles, itemStrings?]
      | nextItem item' comma start more others =>
        obtain ⟨_, rfl⟩ := item.unique item'
        have later := ih others (Nat.le_of_succ_le_succ enough) (s :: seen)
        simp only [stringsWithin, read, comma, start, if_true, if_neg more]
        cases texts : itemStrings? items with
        | none =>
          rw [texts] at later
          exact later
        | some texts' =>
          rw [texts] at later
          have more : stringsWithin fuel (s :: seen) _ = .ok ((s :: seen).reverse ++ texts', rest) :=
            later
          simp [Settles, more]

theorem readStrings_settles (reads : Reads levels input (.value j) rest) :
    Settles (readStrings (depth + 1) input) j.strings? rest := by
  have refused {b : UInt8} {tail : List UInt8} (first : skipBlank input = b :: tail)
      (bracket : b ≠ 0x5b) : Settles (readStrings (depth + 1) input) none rest := by
    simp only [readStrings, first, if_neg bracket]
    exact unexpected_settles ..
  cases reads with
  | scalar first read =>
    have refused := refused first (Starts.of_scalar read).2.1
    cases spelt_of_scalar read with
    | null | true | false | text | negative | unsigned => exact refused
  | noMembers first | object first => exact refused first (by decide)
  | noItems first close =>
    simp only [readStrings, first, close, if_true]
    rfl
  | @list _ _ tail _ _ items _ first start more reads =>
    have inside := length_of_skipBlank start
    have count := reads.length_items
    rw [List.length_cons] at count
    have enough : items.length ≤ tail.length + 1 := by omega
    simp only [readStrings, first, start, if_true, if_neg more]
    simpa [strings?] using stringsWithin_settles reads enough []

section Records

variable {σ : Type}

/-- What the field makes of a value: how the value changes the record, if it is read. -/
def Field.Means (field : Field σ) (depth : Nat) (meaning : Json → Option (σ → σ)) : Prop :=
  ∀ {levels input j rest} (record : σ), Reads levels input (.value j) rest →
    Settles (field.read depth record input) ((meaning j).map (· record)) rest

variable (meaning : String → Json → Option (σ → σ)) (known : List String)

/-- What one member makes of a record, where these names have been given before. -/
def memberChange? (given : List String) (name : String) (j : Json) : Option (σ → σ) :=
  if name ∈ known then if name ∈ given then none else meaning name j else some id

def givenWith (given : List String) (name : String) : List String :=
  if name ∈ known then name :: given else given

def membersChange? : List String → List (String × Json) → Option (σ → σ)
  | _, [] => some id
  | given, (name, j) :: members => do
    let first ← memberChange? meaning known given name j
    let others ← membersChange? (givenWith known given name) members
    return others ∘ first

def itemsChange? : List String → List Json → Option (σ → σ)
  | _, [] => some id
  | [], _ :: _ => none
  | name :: names, j :: items => do
    let first ← meaning name j
    let others ← itemsChange? names items
    return others ∘ first

def recordChange? : Json → Option (σ → σ)
  | .object members => membersChange? meaning known [] members
  | .array items => itemsChange? meaning known items
  | _ => none

variable {meaning known} {fields : List (Field σ)} {given : List String} {record : σ}

theorem mem_names_iff {name : String} :
    name ∈ fields.map Field.name ↔ (fields.find? (·.name = name)).isSome := by
  simp only [List.mem_map, List.find?_isSome, decide_eq_true_eq]

theorem fieldName_of_memberName {name : String} {value : List UInt8}
    (named : memberName input = .ok (name, value)) :
    ∃ behind, fieldName input = .ok (name, behind) ∧ colon behind = .ok value := by
  unfold memberName at named
  split at named
  · cases named
  split at named
  · next quote =>
    split at named
    · cases named
    next text =>
    split at named
    · cases named
    · next mark =>
      cases named
      exact ⟨_, by rw [fieldName, if_pos quote, text], mark⟩
  · cases named

theorem takeMember_settles (means : ∀ field ∈ fields, field.Means depth (meaning field.name))
    (given : List String) (record : σ) (name : String) {behind value tail : List UInt8}
    (mark : colon behind = .ok value) (reads : Reads levels value (.value j) tail) :
    match memberChange? meaning (fields.map Field.name) given name j with
    | some change => takeMember fields depth given record name behind =
        .ok (givenWith (fields.map Field.name) given name, change record, tail)
    | none => ∃ e, takeMember fields depth given record name behind = .error e := by
  rw [memberChange?, givenWith, takeMember]
  simp only [mem_names_iff]
  cases found : fields.find? (·.name = name) with
  | none => simp [mark, reads.skipValue_eq, Except.map]
  | some field =>
    have called : field.name = name := by simpa using List.find?_some found
    have settles := means field (List.mem_of_find?_eq_some found) record reads
    rw [called] at settles
    by_cases again : name ∈ given
    · simp [again]
    · simp only [Option.isSome_some, if_true, List.contains_eq_mem, again, decide_false,
        Bool.false_eq_true, if_false, mark]
      cases change : meaning name j with
      | none =>
        rw [change] at settles
        obtain ⟨e, failed⟩ := settles
        exact ⟨e, by rw [failed]; rfl⟩
      | some change' =>
        rw [change] at settles
        have read : field.read depth record value = .ok (change' record, tail) := settles
        simp only [read]
        rfl

theorem Reads.length_members {members : List (String × Json)}
    (reads : Reads depth input (.members members) rest) :
    members.length + rest.length ≤ input.length := by
  induction members generalizing input with
  | nil => cases reads
  | cons m members ih =>
    have whole := reads.length_lt
    rw [List.length_cons]
    cases reads with
    | lastMember =>
      rw [List.length_nil]
      omega
    | nextMember named item comma start _ others =>
      have name := length_memberName named
      have first := item.length_lt
      have behind := length_of_skipBlank comma
      have next := length_of_skipBlank start
      have later := ih others
      rw [List.length_cons] at later
      omega

section Steps

variable {fuel : Nat} {name : String} {behind tail : List UInt8} {given' : List String} {record' : σ}

/-- How the reader of members goes on behind the value of a member. -/
def goOn (fields : List (Field σ)) (depth fuel : Nat) :
    Except Failure (List String × σ × List UInt8) → Answer (List String × σ)
  | .error e => .error e
  | .ok (given, record, rest) =>
    match skipBlank rest with
    | [] => fail .endInObject []
    | b :: rest =>
      if b = 0x2c then
        match skipBlank rest with
        | [] => fail .endInValue []
        | c :: rest' =>
          if c = 0x7d then fail .trailingComma rest'
          else fieldsWithin fields depth fuel given record (c :: rest')
      else if b = 0x7d then .ok ((given, record), rest)
      else fail .expectedObjectEnd rest

theorem fieldsWithin_succ (start : fieldName input = .ok (name, behind)) :
    fieldsWithin fields depth (fuel + 1) given record input =
      goOn fields depth fuel (takeMember fields depth given record name behind) := by
  rw [fieldsWithin, start]
  rfl

theorem fieldsWithin_closed (start : fieldName input = .ok (name, behind))
    (taken : takeMember fields depth given record name behind = .ok (given', record', tail))
    (close : skipBlank tail = 0x7d :: rest) :
    fieldsWithin fields depth (fuel + 1) given record input = .ok ((given', record'), rest) := by
  rw [fieldsWithin_succ start, taken]
  simp only [goOn, close]
  rfl

theorem fieldsWithin_followed {after next : List UInt8} {c : UInt8}
    (start : fieldName input = .ok (name, behind))
    (taken : takeMember fields depth given record name behind = .ok (given', record', tail))
    (comma : skipBlank tail = 0x2c :: after) (first : skipBlank after = c :: next)
    (more : c ≠ 0x7d) : fieldsWithin fields depth (fuel + 1) given record input =
      fieldsWithin fields depth fuel given' record' (c :: next) := by
  rw [fieldsWithin_succ start, taken]
  simp only [goOn, comma, first, if_true, if_neg more]

end Steps

theorem fieldsWithin_settles (means : ∀ field ∈ fields, field.Means depth (meaning field.name))
    {members : List (String × Json)} (reads : Reads levels input (.members members) rest) {fuel : Nat}
    (enough : members.length ≤ fuel) (given : List String) (record : σ) :
    match membersChange? meaning (fields.map Field.name) given members with
    | some change => ∃ all,
        fieldsWithin fields depth fuel given record input = .ok ((all, change record), rest)
    | none => ∃ e, fieldsWithin fields depth fuel given record input = .error e := by
  induction members generalizing input fuel given record with
  | nil => cases reads
  | cons m members ih =>
    obtain ⟨name, j⟩ := m
    obtain ⟨fuel, rfl⟩ := Nat.exists_eq_add_one.2 (Nat.zero_lt_of_lt enough)
    obtain ⟨value, tail, named, item⟩ : ∃ value tail, memberName input = .ok (name, value) ∧
        Reads levels value (.value j) tail := by
      cases reads with
      | lastMember named item | nextMember named item => exact ⟨_, _, named, item⟩
    obtain ⟨behind, start, mark⟩ := fieldName_of_memberName named
    have taken := takeMember_settles means given record name mark item
    rw [membersChange?]
    cases change : memberChange? meaning (fields.map Field.name) given name j with
    | none =>
      rw [change] at taken
      obtain ⟨e, failed⟩ := taken
      exact ⟨e, by rw [fieldsWithin_succ start, failed, goOn]⟩
    | some first =>
      rw [change] at taken
      cases reads with
      | lastMember named' item' close =>
        cases named.symm.trans named'
        obtain ⟨_, rfl⟩ := item.unique item'
        exact ⟨_, fieldsWithin_closed start taken close⟩
      | nextMember named' item' comma next more others =>
        cases named.symm.trans named'
        obtain ⟨_, rfl⟩ := item.unique item'
        have later := ih others (Nat.le_of_succ_le_succ enough)
          (givenWith (fields.map Field.name) given name) (first record)
        rw [fieldsWithin_followed start taken comma next more]
        cases rest : membersChange? meaning (fields.map Field.name)
            (givenWith (fields.map Field.name) given name) members with
        | none =>
          rw [rest] at later
          exact later
        | some change =>
          rw [rest] at later
          exact later

theorem listEnd_refused {index c : _} {inner : List UInt8} (item : ItemAt index input (c :: inner))
    (more : c ≠ 0x5d) (record : σ) : ∃ e, listEnd record input = .error e := by
  unfold listEnd
  cases found : skipBlank input with
  | nil => exact ⟨_, rfl⟩
  | cons b behind =>
    have open' : b ≠ 0x5d := by
      rintro rfl
      exact item.not_close more found
    simp only [if_neg open']
    split
    · split
      · exact ⟨_, rfl⟩
      · split <;> exact ⟨_, rfl⟩
    · exact ⟨_, rfl⟩

theorem fromItems_item {field : Field σ} {expected : String} {index : Nat} {c : UInt8}
    {inner : List UInt8} (item : ItemAt index input (c :: inner)) (more : c ≠ 0x5d) (record : σ) :
    fromItems expected depth index (field :: fields) record input =
      match field.read depth record (c :: inner) with
      | .error e => .error e
      | .ok (record, rest) => fromItems expected depth (index + 1) fields record rest := by
  have open' : ¬(0x2c : UInt8) = 0x5d := by decide
  cases item with
  | first start =>
    rcases read : field.read depth record (c :: inner) with e | ⟨next, rest⟩ <;>
      simp only [fromItems, start, if_neg more, if_true, read]
  | later comma start =>
    rcases read : field.read depth record (c :: inner) with e | ⟨next, rest⟩ <;>
      simp only [fromItems, comma, start, if_neg more, if_neg open', Nat.add_one_ne_zero, if_false,
        if_true, read]

theorem fromItems_settles (means : ∀ field ∈ fields, field.Means depth (meaning field.name))
    (optional : ∀ field ∈ fields, field.required = false) {expected : String} {index : Nat}
    {items : List Json} (remaining : Remaining levels index input items rest) (record : σ) :
    Settles (fromItems expected depth index fields record input)
      ((itemsChange? meaning (fields.map Field.name) items).map (· record)) rest := by
  induction fields generalizing index input items record with
  | nil =>
    cases remaining with
    | none close =>
      simp only [fromItems, listEnd, close, if_true]
      rfl
    | some item more reads =>
      obtain ⟨j, others, rfl⟩ : ∃ j others, items = j :: others := by
        cases reads with
        | lastItem | nextItem => exact ⟨_, _, rfl⟩
      exact listEnd_refused item more record
  | cons field fields ih =>
    cases items with
    | nil =>
      cases remaining with
      | none close =>
        simp only [fromItems, close, if_true, optional field (List.mem_cons_self ..),
          Bool.false_eq_true, if_false]
        rfl
      | some _ _ reads => cases reads
    | cons j items =>
      obtain ⟨c, inner, item, more⟩ : ∃ c inner, ItemAt index input (c :: inner) ∧ c ≠ 0x5d := by
        cases remaining with
        | some item more => exact ⟨_, _, item, more⟩
      obtain ⟨j', others, behind, same, value, remaining⟩ := remaining.cons item more
      cases same
      have first := means field (List.mem_cons_self ..) record value
      rw [fromItems_item item more, List.map_cons, itemsChange?]
      cases change : meaning field.name j with
      | none =>
        rw [change] at first
        obtain ⟨e, failed⟩ := first
        exact ⟨e, by rw [failed]⟩
      | some change' =>
        rw [change] at first
        have read : field.read depth record (c :: inner) = .ok (change' record, behind) := first
        rw [read]
        have later := ih (fun field member => means field (List.mem_cons_of_mem _ member))
          (fun field member => optional field (List.mem_cons_of_mem _ member)) remaining
          (change' record)
        cases others : itemsChange? meaning (fields.map Field.name) items with
        | none =>
          rw [others] at later
          exact later
        | some change =>
          rw [others] at later
          exact later

theorem complete_of_optional (optional : ∀ field ∈ fields, field.required = false) :
    complete fields given record rest = .ok (record, rest) := by
  have none : (fields.find? fun f => f.required && !given.contains f.name) = none := by
    apply List.find?_eq_none.2
    intro field member
    simp [optional field member]
  rw [complete, none]

/-- A record whose fields may all be absent is read as the value in the text changes it. -/
theorem Record.read_settles {r : Record σ}
    (means : ∀ field ∈ r.fields, field.Means depth (meaning field.name))
    (optional : ∀ field ∈ r.fields, field.required = false) (record : σ)
    (reads : Json.Reads levels input (.value j) rest) :
    Settles (r.read (depth + 1) record input)
      ((recordChange? meaning (r.fields.map Field.name) j).map (· record)) rest := by
  cases reads with
  | scalar first read =>
    obtain ⟨_, bracket, brace⟩ := Starts.of_scalar read
    simp only [Record.read, first, if_neg bracket, if_neg brace]
    cases spelt_of_scalar read with
    | null | true | false | text | negative | unsigned => exact unexpected_settles ..
  | noItems bracket close =>
    have brace : ¬(0x5b : UInt8) = 0x7b := by decide
    simp only [Record.read, bracket, if_neg brace, if_true]
    have none : Remaining depth 0 _ [] rest := .none close
    exact fromItems_settles means optional none record
  | list bracket start more items =>
    have brace : ¬(0x5b : UInt8) = 0x7b := by decide
    simp only [Record.read, bracket, if_neg brace, if_true]
    exact fromItems_settles means optional (.some (.first start) more items) record
  | noMembers brace close =>
    simp only [Record.read, brace, fromObject, close, if_true, complete_of_optional optional]
    rfl
  | @object _ _ tail _ _ members _ brace start more reads =>
    have inside := length_of_skipBlank start
    have count := reads.length_members
    rw [List.length_cons] at count
    have enough : members.length ≤ tail.length + 1 := by omega
    have settles := fieldsWithin_settles means reads enough [] record
    simp only [Record.read, brace, fromObject, start, if_true, if_neg more]
    rw [recordChange?]
    cases change : membersChange? meaning (r.fields.map Field.name) [] members with
    | none =>
      rw [change] at settles
      obtain ⟨e, failed⟩ := settles
      exact ⟨e, by rw [failed]⟩
    | some change' =>
      rw [change] at settles
      obtain ⟨all, read⟩ := settles
      rw [read]
      exact complete_of_optional optional

/-- Each of these names at most once. -/
def Once (known : List String) (members : List (String × Json)) : Prop :=
  ((members.map Prod.fst).filter (· ∈ known)).Nodup

theorem Once.of_nodup {known : List String} {members : List (String × Json)}
    (distinct : (members.map Prod.fst).Nodup) : Once known members :=
  distinct.sublist List.filter_sublist

theorem membersChange?_after {members : List (String × Json)} {given : List String}
    {P : List (String × Json) → σ → Prop} (once : Once known members)
    (new : ∀ m ∈ members, m.1 ∈ known → m.1 ∉ given)
    (step : ∀ m ∈ members, m.1 ∈ known → ∃ change, meaning m.1 m.2 = some change ∧
      ∀ before record, P before record → P (before ++ [m]) (change record))
    (pass : ∀ m ∈ members, m.1 ∉ known → ∀ before record, P before record → P (before ++ [m]) record) :
    ∃ change, membersChange? meaning known given members = some change ∧
      ∀ before record, P before record → P (before ++ members) (change record) := by
  induction members generalizing given with
  | nil =>
    refine ⟨id, rfl, fun before record holds => ?_⟩
    rw [List.append_nil]
    exact holds
  | cons m members ih =>
    obtain ⟨name, j⟩ := m
    have later (given : List String) (new : ∀ m ∈ members, m.1 ∈ known → m.1 ∉ given)
        (once : Once known members) :=
      ih once new (fun m member => step m (List.mem_cons_of_mem _ member))
        fun m member => pass m (List.mem_cons_of_mem _ member)
    have tail : ∀ m ∈ members, m.1 ∈ known → m.1 ∉ given := fun m member =>
      new m (List.mem_cons_of_mem _ member)
    rw [Once, List.map_cons] at once
    by_cases named : name ∈ known
    · rw [List.filter_cons_of_pos (by simpa using named)] at once
      obtain ⟨alone, once⟩ := List.nodup_cons.1 once
      obtain ⟨first, meant, holds⟩ := step (name, j) (List.mem_cons_self ..) named
      obtain ⟨others, changed, holds'⟩ := later (name :: given) (by
        intro m member known again
        rcases List.mem_cons.1 again with rfl | again
        · exact alone (by simp [known, List.mem_map_of_mem member])
        · exact tail m member known again) once
      have fresh : name ∉ given := new (name, j) (List.mem_cons_self ..) named
      refine ⟨others ∘ first, ?_, fun before record here => ?_⟩
      · simp [membersChange?, memberChange?, givenWith, named, fresh, meant, changed]
      · rw [List.append_cons]
        exact holds' _ _ (holds before record here)
    · rw [List.filter_cons_of_neg (by simpa using named)] at once
      obtain ⟨others, changed, holds'⟩ := later given tail once
      refine ⟨others, ?_, fun before record here => ?_⟩
      · simp [membersChange?, memberChange?, givenWith, named, changed]
      · rw [List.append_cons]
        exact holds' _ _ (pass (name, j) (List.mem_cons_self ..) named before record here)

/-- The value stands for the field of this name: under the name in an object, or in its place in a
list. -/
def StandsFor (known : List String) (name : String) (j k : Json) : Prop :=
  (∃ members, j = .object members ∧ (name, k) ∈ members) ∨
  ∃ items, j = .array items ∧ (name, k) ∈ known.zip items

theorem membersChange?_isSome {members : List (String × Json)} {given : List String}
    (changed : (membersChange? meaning known given members).isSome) {m : String × Json}
    (member : m ∈ members) (named : m.1 ∈ known) : (meaning m.1 m.2).isSome := by
  induction members generalizing given with
  | nil => cases member
  | cons first members ih =>
    obtain ⟨name, j⟩ := first
    rw [membersChange?] at changed
    cases head : memberChange? meaning known given name j with
    | none =>
      rw [head] at changed
      cases changed
    | some change =>
      rcases List.mem_cons.1 member with rfl | later
      · rw [memberChange?, if_pos named] at head
        split at head
        · cases head
        · rw [head]
          rfl
      · cases tail : membersChange? meaning known (givenWith known given name) members with
        | none =>
          rw [head, tail] at changed
          cases changed
        | some others => exact ih (Option.isSome_of_eq_some tail) later

theorem itemsChange?_isSome {names : List String} {items : List Json}
    (changed : (itemsChange? meaning names items).isSome) {p : String × Json}
    (member : p ∈ names.zip items) : (meaning p.1 p.2).isSome := by
  induction names generalizing items with
  | nil => cases member
  | cons name names ih =>
    cases items with
    | nil => cases member
    | cons j items =>
      rw [itemsChange?] at changed
      cases head : meaning name j with
      | none =>
        rw [head] at changed
        cases changed
      | some change =>
        rcases List.mem_cons.1 member with rfl | later
        · rw [head]
          rfl
        · cases tail : itemsChange? meaning names items with
          | none =>
            rw [head, tail] at changed
            cases changed
          | some others => exact ih (Option.isSome_of_eq_some tail) later

/-- A value that its field does not read keeps the whole record from being read. -/
theorem recordChange?_eq_none {name : String} {j k : Json} (stands : StandsFor known name j k)
    (named : name ∈ known) (refused : meaning name k = none) : recordChange? meaning known j = none := by
  apply Option.not_isSome_iff_eq_none.1
  intro changed
  have read : (meaning name k).isSome := by
    rcases stands with ⟨members, rfl, member⟩ | ⟨items, rfl, member⟩
    · exact membersChange?_isSome changed member named
    · exact itemsChange?_isSome changed member
  rw [refused] at read
  cases read

end Records

end TopicGateway.Json
