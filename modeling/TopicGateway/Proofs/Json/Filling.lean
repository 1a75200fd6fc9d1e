import TopicGateway.Json.Record
import TopicGateway.Proofs.Json.Grammar

/-! How a record is filled from the members of an object or the items of a list, as relations without
a count of steps. -/
namespace TopicGateway.Json

section Relations

variable {σ : Type}

/-- What one member does to a record and to the names that are given: it is read into the field of
its name, or passed over. -/
inductive Takes (fields : List (Field σ)) (depth : Nat) (given : List String) (record : σ)
    (name : String) (input : List UInt8) : List String → σ → List UInt8 → Prop
  | field {field next rest} (found : fields.find? (·.name = name) = some field)
      (new : given.contains name = false) (read : field.read depth record input = .ok (next, rest)) :
      Takes fields depth given record name input (name :: given) next rest
  | other {rest} (unknown : fields.find? (·.name = name) = none)
      (skipped : skipValue input = .ok rest) :
      Takes fields depth given record name input given record rest

/-- The members from the next one on fill the record, up to the closing brace. -/
inductive Fills (fields : List (Field σ)) (depth : Nat) :
    List String → σ → List UInt8 → List String → σ → List UInt8 → Prop
  | last {given record input name value all filled behind rest}
      (named : memberName input = .ok (name, value))
      (takes : Takes fields depth given record name value all filled behind)
      (close : skipBlank behind = 0x7d :: rest) :
      Fills fields depth given record input all filled rest
  | next {given record input name value given' record' behind after c inner all filled rest}
      (named : memberName input = .ok (name, value))
      (takes : Takes fields depth given record name value given' record' behind)
      (comma : skipBlank behind = 0x2c :: after) (start : skipBlank after = c :: inner)
      (more : c ≠ 0x7d) (others : Fills fields depth given' record' (c :: inner) all filled rest) :
      Fills fields depth given record input all filled rest

/-- Where the item of this index starts: the first one behind the bracket, another behind a comma. -/
inductive ItemAt : Nat → List UInt8 → List UInt8 → Prop
  | first {input item} (start : skipBlank input = item) : ItemAt 0 input item
  | later {index input behind item} (comma : skipBlank input = 0x2c :: behind)
      (start : skipBlank behind = item) : ItemAt (index + 1) input item

/-- The items from the one at the index on fill the fields, up to the closing bracket. -/
inductive Fits (depth : Nat) : Nat → List (Field σ) → σ → List UInt8 → σ → List UInt8 → Prop
  | done {index record input rest} (close : skipBlank input = 0x5d :: rest) :
      Fits depth index [] record input record rest
  | short {index field fields record input rest} (optional : field.required = false)
      (close : skipBlank input = 0x5d :: rest) :
      Fits depth index (field :: fields) record input record rest
  | next {index field fields record input c start record' behind filled rest}
      (item : ItemAt index input (c :: start)) (more : c ≠ 0x5d)
      (read : field.read depth record (c :: start) = .ok (record', behind))
      (others : Fits depth (index + 1) fields record' behind filled rest) :
      Fits depth index (field :: fields) record input filled rest

/-- The record that is written at the start of the input, in no more than `depth` levels. -/
inductive Record.Reads (r : Record σ) (record : σ) : Nat → List UInt8 → σ → List UInt8 → Prop
  | empty {depth input tail rest} (brace : skipBlank input = 0x7b :: tail)
      (close : skipBlank tail = 0x7d :: rest) (optional : ∀ f ∈ r.fields, f.required = false) :
      r.Reads record (depth + 1) input record rest
  | object {depth input tail c inner all filled rest} (brace : skipBlank input = 0x7b :: tail)
      (start : skipBlank tail = c :: inner) (more : c ≠ 0x7d)
      (fills : Fills r.fields depth [] record (c :: inner) all filled rest)
      (complete : ∀ f ∈ r.fields, f.required = true → f.name ∈ all) :
      r.Reads record (depth + 1) input filled rest
  | list {depth input tail filled rest} (bracket : skipBlank input = 0x5b :: tail)
      (fits : Fits depth 0 r.fields record tail filled rest) :
      r.Reads record (depth + 1) input filled rest

end Relations

section Soundness

variable {σ : Type} {fields : List (Field σ)} {depth : Nat} {record filled : σ}
variable {given all : List String} {input rest : List UInt8}

theorem memberName_of_fieldName {name : String} {value : List UInt8}
    (named : fieldName input = .ok (name, rest)) (mark : colon rest = .ok value) :
    memberName input = .ok (name, value) := by
  cases input with
  | nil => cases named
  | cons b input =>
    rw [fieldName] at named
    rw [memberName]
    split at named
    · next quote => simp only [if_pos quote, named, mark]
    · cases named

/-- The step of the reader of members between a name and what stands behind its value. -/
def takeMember (fields : List (Field σ)) (depth : Nat) (given : List String) (record : σ)
    (name : String) (input : List UInt8) : Except Failure (List String × σ × List UInt8) :=
  match fields.find? (·.name = name) with
  | some field =>
    if given.contains name then .error ⟨.mismatch (.duplicate name), pastClosing 0x7d input⟩
    else
      match colon input with
      | .error e => .error e
      | .ok rest => (field.read depth record rest).map fun (r, rest) => (name :: given, r, rest)
  | none =>
    match colon input with
    | .error e => .error e
    | .ok rest => (skipValue rest).map fun rest => (given, record, rest)

theorem takes_of_takeMember {name : String} {given' : List String} {record' : σ}
    {behind : List UInt8} (named : fieldName input = .ok (name, behind))
    (taken : takeMember fields depth given record name behind = .ok (given', record', rest)) :
    ∃ value, memberName input = .ok (name, value) ∧
      Takes fields depth given record name value given' record' rest := by
  unfold takeMember at taken
  split at taken
  · next field found =>
    split at taken
    · cases taken
    next new =>
    split at taken
    · cases taken
    next value mark =>
    refine ⟨value, memberName_of_fieldName named mark, ?_⟩
    cases filled : field.read depth record value with
    | error e =>
      rw [filled] at taken
      cases taken
    | ok answer =>
      rw [filled] at taken
      cases taken
      exact .field found (Bool.eq_false_iff.2 new) filled
  · next unknown =>
    split at taken
    · cases taken
    next value mark =>
    refine ⟨value, memberName_of_fieldName named mark, ?_⟩
    cases skipped : skipValue value with
    | error e =>
      rw [skipped] at taken
      cases taken
    | ok answer =>
      rw [skipped] at taken
      cases taken
      exact .other unknown skipped

theorem fills_of_fieldsWithin {fuel : Nat}
    (read : fieldsWithin fields depth fuel given record input = .ok ((all, filled), rest)) :
    Fills fields depth given record input all filled rest := by
  induction fuel generalizing given record input with
  | zero => cases read
  | succ fuel ih =>
    simp only [fieldsWithin] at read
    split at read
    · cases read
    next name behind named =>
    split at read
    · cases read
    next given' record' behind taken =>
    obtain ⟨value, member, takes⟩ := takes_of_takeMember named taken
    split at read
    · cases read
    next b after mark =>
    split at read
    · next comma =>
      subst comma
      split at read
      · cases read
      next c inner start =>
      split at read
      · cases read
      next more => exact .next member takes mark start more (ih read)
    split at read
    · next close =>
      subst close
      cases read
      exact .last member takes mark
    · cases read

theorem fits_of_fromItems {expected : String} {index : Nat}
    (read : fromItems expected depth index fields record input = .ok (filled, rest)) :
    Fits depth index fields record input filled rest := by
  induction fields generalizing index record input with
  | nil =>
    rw [fromItems, listEnd] at read
    split at read
    · cases read
    next b behind after =>
    split at read
    · next close =>
      subst close
      cases read
      exact .done after
    split at read
    · split at read
      · cases read
      · split at read <;> cases read
    · cases read
  | cons field fields ih =>
    simp only [fromItems] at read
    split at read
    · cases read
    next b behind after =>
    split at read
    · next close =>
      subst close
      split at read
      · cases read
      · next optional =>
        cases read
        exact .short (Bool.eq_false_iff.2 optional) after
    next opened =>
    split at read
    · next zero =>
      subst zero
      split at read
      · cases read
      · next value => exact .next (.first after) opened value (ih read)
    next positive =>
    split at read
    · next comma =>
      subst comma
      split at read
      · cases read
      next c inner start =>
      split at read
      · cases read
      next more =>
      obtain ⟨index, rfl⟩ := Nat.exists_eq_succ_of_ne_zero positive
      split at read
      · cases read
      · next value => exact .next (.later after start) more value (ih read)
    · cases read

theorem complete_eq_ok (read : complete fields given record rest = .ok (filled, input)) :
    filled = record ∧ input = rest ∧ ∀ f ∈ fields, f.required = true → f.name ∈ given := by
  unfold complete at read
  split at read
  · cases read
  · next none =>
    cases read
    refine ⟨rfl, rfl, fun f member required => ?_⟩
    have present := List.find?_eq_none.1 none f member
    simpa [required] using present

theorem unexpected_ne_ok {α : Type} {expected : String} {b : UInt8} {tail : List UInt8}
    {answer : α × List UInt8} : unexpected expected b tail ≠ .ok answer := by
  intro read
  simp only [unexpected] at read
  split at read
  · cases read
  split at read
  · cases read
  split at read <;> cases read

theorem Record.reads_of_read {r : Record σ}
    (read : r.read depth record input = .ok (filled, rest)) :
    r.Reads record depth input filled rest := by
  unfold Record.read at read
  split at read
  · cases read
  next b tail first =>
  split at read
  · next brace =>
    subst brace
    split at read
    · cases read
    next depth =>
    rw [fromObject] at read
    split at read
    · cases read
    next c inner start =>
    split at read
    · next close =>
      subst close
      obtain ⟨rfl, rfl, given⟩ := complete_eq_ok read
      refine .empty first start fun f member => ?_
      cases required : f.required with
      | false => rfl
      | true => cases given f member required
    next more =>
    split at read
    · cases read
    · next fields =>
      obtain ⟨rfl, rfl, given⟩ := complete_eq_ok read
      exact .object first start more (fills_of_fieldsWithin fields) given
  split at read
  · next bracket =>
    subst bracket
    split at read
    · cases read
    · exact .list first (fits_of_fromItems read)
  · exact absurd read unexpected_ne_ok

end Soundness

section Keeping

variable {σ : Type} {fields : List (Field σ)} {depth : Nat} {record filled : σ}
variable {given all : List String} {input rest : List UInt8}

/-- Reading the field keeps a property of the record. -/
def Field.Keeps (field : Field σ) (depth : Nat) (P : σ → Prop) : Prop :=
  ∀ record next input rest, P record → field.read depth record input = .ok (next, rest) → P next

variable {P : σ → Prop}

theorem Fills.keeps (keeps : ∀ field ∈ fields, field.Keeps depth P)
    (fills : Fills fields depth given record input all filled rest) (before : P record) :
    P filled := by
  have step {given record name value given' record' behind}
      (takes : Takes fields depth given record name value given' record' behind)
      (before : P record) : P record' := by
    cases takes with
    | field found _ read => exact keeps _ (List.mem_of_find?_eq_some found) _ _ _ _ before read
    | other => exact before
  induction fills with
  | last _ takes => exact step takes before
  | next _ takes _ _ _ _ ih => exact ih (step takes before)

theorem Fits.keeps {index : Nat} (keeps : ∀ field ∈ fields, field.Keeps depth P)
    (fits : Fits depth index fields record input filled rest) (before : P record) :
    P filled := by
  induction fits with
  | done | short => exact before
  | next _ _ read _ ih =>
    exact ih (fun field later => keeps field (List.mem_cons_of_mem _ later))
      (keeps _ (List.mem_cons_self ..) _ _ _ _ before read)

theorem Record.Reads.keeps {r : Record σ} (keeps : ∀ field ∈ r.fields, field.Keeps depth P)
    (reads : r.Reads record (depth + 1) input filled rest) (before : P record) : P filled := by
  cases reads with
  | empty => exact before
  | object _ _ _ fills => exact fills.keeps keeps before
  | list _ fits => exact fits.keeps keeps before

end Keeping

section TextFields

variable {σ β : Type} {depth : Nat} {name expected : String} {required : Bool}
variable {parse : String → Except String β} {put : σ → β → σ}

def textField (name : String) (required : Bool) (expected : String)
    (parse : String → Except String β) (put : σ → β → σ) : Field σ :=
  ⟨name, required, fun _ record input =>
    (readParsed expected parse input).map fun (x, rest) => (put record x, rest)⟩

theorem textField_read {record next : σ} {input rest : List UInt8}
    (read : (textField name required expected parse put).read depth record input =
      .ok (next, rest)) :
    ∃ x, readParsed expected parse input = .ok (x, rest) ∧ next = put record x :=
  eq_of_map read

theorem textField_keeps {P : σ → Prop} (kept : ∀ record x, P record → P (put record x)) :
    (textField name required expected parse put).Keeps depth P := by
  intro record next input rest before read
  obtain ⟨x, _, rfl⟩ := textField_read read
  exact kept record x before

end TextFields

end TopicGateway.Json
