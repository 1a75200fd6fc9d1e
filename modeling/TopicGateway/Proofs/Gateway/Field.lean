import TopicGateway.Gateway.Route
import TopicGateway.Proofs.Json.Members

/-! What the object in the body of a request says under a name, and what the fields of a route read of
it. Reading keeps an object with its members sorted; nothing that a field reads is changed by that. -/
namespace TopicGateway.Gateway

theorem bind_eq_ok {ε α β : Type} {x : Except ε α} {f : α → Except ε β} {b : β}
    (ready : x >>= f = .ok b) : ∃ a, x = .ok a ∧ f a = .ok b := by
  cases x with
  | error e => cases ready
  | ok a => exact ⟨a, rfl, ready⟩

theorem mapError_eq_ok {ε φ α : Type} {x : Except ε α} {f : ε → φ} {a : α}
    (ready : x.mapError f = .ok a) : x = .ok a := by
  cases x with
  | error e => cases ready
  | ok b =>
    cases ready
    rfl

/-- What the body of a request has under a name, as it is written: the last member of this name. -/
def said? (r : Http.Request) (name : String) : Option Json :=
  match Json.read r.body.data.toList with
  | .ok j => j.member? name
  | .error _ => none

def saidText? (r : Http.Request) (name : String) : Option String :=
  (said? r name).bind asText

def textField? (o : Json.Object) (name : String) : Option String :=
  (o.get? name).bind asText

theorem readObject_eq_ok {r : Http.Request} {o : Json.Object} (read : readObject r = .ok o) :
    ∃ j, Json.read r.body.data.toList = .ok j ∧ j.value.object? = some o := by
  unfold readObject parseObject at read
  split at read
  · cases read
  · split at read
    · cases read
    · next j written =>
      split at read
      · next object =>
        cases read
        exact ⟨j, written, object⟩
      · cases read

theorem requireFields_eq_ok {o : Json.Object} {names : List String}
    (present : requireFields o names = .ok ()) (name : String) (required : name ∈ names) :
    ∃ j, o.get? name = some j := by
  unfold requireFields at present
  split at present
  · cases present
  · next none =>
    have contained := List.find?_eq_none.1 none name required
    exact Option.ne_none_iff_exists'.1 (by simpa [Json.Object.contains] using contained)

theorem asText_canonical (j : Json) : asText j.canonical = asText j := by
  cases j <;> rfl

/-- What stands for a text in an object is kept. -/
theorem bind_asText_canonical (member : Option Json) :
    (member.map Json.canonical).bind asText = member.bind asText := by
  rw [Option.bind_map]
  exact congrArg member.bind (funext asText_canonical)

variable {r : Http.Request} {o : Json.Object} {name : String}

theorem get?_of_readObject (read : readObject r = .ok o) (name : String) :
    o.get? name = (said? r name).map Json.canonical := by
  obtain ⟨j, written, kept⟩ := readObject_eq_ok read
  rw [said?, written, Json.Object.get?_of_value kept]

theorem textField?_of_readObject (read : readObject r = .ok o) (name : String) :
    textField? o name = saidText? r name := by
  rw [textField?, saidText?, get?_of_readObject read, bind_asText_canonical]

theorem said?_eq_some {member : Json} (said : said? r name = some member) :
    ∃ j, Json.read r.body.data.toList = .ok j ∧ j.member? name = some member := by
  unfold said? at said
  split at said
  · next j written => exact ⟨j, written, said⟩
  · cases said

theorem textOf_eq_ok_iff {j : Json} {text : String} :
    textOf name j = .ok text ↔ asText j = some text := by
  rw [textOf]
  cases asText j with
  | none => simp
  | some s => simp

theorem stringField_eq_ok_iff {text : String} :
    stringField o name = .ok text ↔ textField? o name = some text := by
  rw [stringField, textField?]
  cases o.get? name with
  | none => simp
  | some j => exact textOf_eq_ok_iff

theorem saidText?_of_stringField {text : String} (read : readObject r = .ok o)
    (given : stringField o name = .ok text) : saidText? r name = some text := by
  rw [← textField?_of_readObject read]
  exact stringField_eq_ok_iff.1 given

/-- What an object has under a name gives this text, or none: it is absent then, or `null`. -/
def Gives (member : Option Json) : Option String → Prop
  | some text => member.bind asText = some text
  | none => member = none ∨ member = some .null

theorem Gives.asText_eq {member : Option Json} {given : Option String} (gives : Gives member given) :
    member.bind asText = given := by
  cases given with
  | some text => exact gives
  | none => rcases gives with rfl | rfl <;> rfl

theorem gives_canonical_iff {member : Option Json} {given : Option String} :
    Gives (member.map Json.canonical) given ↔ Gives member given := by
  cases given with
  | some text => rw [Gives, Gives, bind_asText_canonical]
  | none =>
    cases member with
    | none => rfl
    | some j => cases j <;> simp [Gives, Json.canonical]

theorem optionalString_eq_ok_iff {given : Option String} :
    optionalString o name = .ok given ↔ Gives (o.get? name) given := by
  unfold optionalString
  split
  · next absent => cases given <;> simp [absent, Gives]
  · next null => cases given <;> simp [null, Gives, asText]
  · next j other found =>
    rw [found, textOf]
    cases given with
    | some text => cases standing : asText j <;> simp [Gives, standing, Except.map]
    | none =>
      have present : ¬Gives (some j) none := by
        rintro (absent | null)
        · cases absent
        · exact other (Option.some.inj null)
      cases asText j <;> simp [present, Except.map]

theorem textField?_of_optionalString {given : Option String}
    (read : optionalString o name = .ok given) : textField? o name = given :=
  (optionalString_eq_ok_iff.1 read).asText_eq

theorem saidText?_of_optionalString {given : Option String} (read : readObject r = .ok o)
    (taken : optionalString o name = .ok given) : saidText? r name = given := by
  rw [← textField?_of_readObject read]
  exact textField?_of_optionalString taken

theorem said?_of_numberField {n : Json.Number} (read : readObject r = .ok o)
    (taken : numberField o name = .ok n) : said? r name = some (.number n) := by
  have found := get?_of_readObject read name
  unfold numberField at taken
  split at taken
  · cases taken
  · next given =>
    cases taken
    obtain ⟨j, said, number⟩ := Option.map_eq_some_iff.1 (found.symm.trans given)
    cases j with
    | number => exact said.trans (congrArg some number)
    | null | bool _ | string _ | array _ | object _ => cases number
  · cases taken

/-- A file that is taken from an object is what the body says. -/
theorem fileFromObject_eq_ok {q : Message.FileRequest} (read : readObject r = .ok o)
    (taken : fileFromObject o = .ok q) :
    saidText? r "file_name" = some q.fileName ∧ saidText? r "file_content" = some q.fileContent ∧
    saidText? r "file_type" = q.fileType ∧ saidText? r "related_id" = q.relatedId := by
  obtain ⟨_, _, taken⟩ := bind_eq_ok taken
  obtain ⟨name, name_read, taken⟩ := bind_eq_ok taken
  dsimp only at taken
  split at taken
  · cases taken
  obtain ⟨content, content_read, taken⟩ := bind_eq_ok taken
  obtain ⟨type, type_read, taken⟩ := bind_eq_ok taken
  obtain ⟨related, related_read, taken⟩ := bind_eq_ok taken
  cases taken
  exact ⟨saidText?_of_stringField read name_read, saidText?_of_stringField read content_read,
    saidText?_of_optionalString read type_read, saidText?_of_optionalString read related_read⟩

end TopicGateway.Gateway
