import TopicGateway.Proofs.Json.Filling
import TopicGateway.Proofs.Json.Members
import TopicGateway.Proofs.Json.Skipping

/-! Where an input is read as a record and as a value, a field of the record holds what the value has
for it: the last member of its name, or the item in its place. -/
namespace TopicGateway.Json

variable {σ α : Type}

def Record.member? (r : Record σ) (name : String) : Json → Option Json
  | .object members => (Json.object members).member? name
  | .array items => ((r.fields.map Field.name).zip items).lookup name
  | _ => none

/-- Reading the field consumes the value that stands there; seen through `view`, the field of this
name puts the meaning of that value into the record and any other leaves the record. -/
def Field.Agrees (field : Field σ) (depth : Nat) (name : String) (view : σ → α)
    (meaning : Json → α) : Prop :=
  ∀ record next input tail j rest, field.read depth record input = .ok (next, tail) →
    Reads depth input (.value j) rest →
    tail = rest ∧ view next = if field.name = name then meaning j else view record

section Agreement

variable {fields : List (Field σ)} {depth : Nat} {name : String} {view : σ → α}
variable {meaning : Json → α} {given all : List String} {record filled : σ}
variable {input tail rest : List UInt8}

/-- What the view of a record is once these members have been read. -/
def overlay (view : σ → α) (meaning : Json → α) (record : σ) (found : Option Json) : α :=
  (found.map meaning).getD (view record)

theorem overlay_or {next : σ} {earlier : Option Json}
    (step : view next = overlay view meaning record earlier) (later : Option Json) :
    overlay view meaning next later = overlay view meaning record (later.or earlier) := by
  cases later with
  | none => exact step
  | some j => rfl

theorem lookup_singleton (other : String) (j : Json) :
    [(other, j)].lookup name = if other = name then some j else none := by
  by_cases same : other = name
  · simp [same]
  · simp [same, List.lookup_cons, beq_eq_false_iff_ne.2 (Ne.symm same)]

theorem Takes.agrees {member : String} {j : Json} {next : σ}
    (agrees : ∀ field ∈ fields, field.Agrees depth name view meaning)
    (known : name ∈ fields.map Field.name)
    (takes : Takes fields depth given record member input all next tail)
    (reads : Reads depth input (.value j) rest) :
    tail = rest ∧ view next = overlay view meaning record ([(member, j)].lookup name) ∧
      (name ∈ all → name ∈ given ∨ ([(member, j)].lookup name).isSome) := by
  rw [lookup_singleton]
  cases takes with
  | @field field _ _ found _ read =>
    have called : field.name = member := by simpa using List.find?_some found
    obtain ⟨same, seen⟩ := agrees field (List.mem_of_find?_eq_some found) _ _ _ _ _ _ read reads
    refine ⟨same, ?_, ?_⟩
    · rw [seen, called]
      split <;> rfl
    · intro present
      rcases List.mem_cons.1 present with rfl | earlier
      · exact .inr (by simp)
      · exact .inl earlier
  | other unknown skipped =>
    have different : member ≠ name := by
      rintro rfl
      obtain ⟨field, inside, called⟩ := List.mem_map.1 known
      exact List.find?_eq_none.1 unknown field inside (by simpa using called)
    rw [if_neg different]
    exact ⟨reads.rest_of_skipValue skipped, rfl, .inl⟩

theorem Fills.agrees {members : List (String × Json)}
    (agrees : ∀ field ∈ fields, field.Agrees depth name view meaning)
    (known : name ∈ fields.map Field.name)
    (fills : Fills fields depth given record input all filled tail)
    (reads : Reads depth input (.members members) rest) :
    tail = rest ∧ view filled = overlay view meaning record (members.reverse.lookup name) ∧
      (name ∈ all → name ∈ given ∨ (members.reverse.lookup name).isSome) := by
  induction fills generalizing members with
  | last named takes close =>
    cases reads with
    | lastMember named' item close' =>
      cases named.symm.trans named'
      obtain ⟨rfl, seen, present⟩ := takes.agrees agrees known item
      cases close.symm.trans close'
      exact ⟨rfl, seen, present⟩
    | nextMember named' item comma =>
      cases named.symm.trans named'
      obtain ⟨rfl, _⟩ := takes.agrees agrees known item
      cases close.symm.trans comma
  | next named takes comma start _ _ ih =>
    cases reads with
    | lastMember named' item close =>
      cases named.symm.trans named'
      obtain ⟨rfl, _⟩ := takes.agrees agrees known item
      cases comma.symm.trans close
    | nextMember named' item comma' start' _ others =>
      cases named.symm.trans named'
      obtain ⟨rfl, seen, present⟩ := takes.agrees agrees known item
      cases comma.symm.trans comma'
      cases start.symm.trans start'
      obtain ⟨rfl, later, presentLater⟩ := ih others
      rw [List.reverse_cons, List.lookup_append]
      refine ⟨rfl, later.trans (overlay_or seen _), fun inside => ?_⟩
      rcases presentLater inside with earlier | found
      · rcases present earlier with given | found
        · exact .inl given
        · exact .inr (by simp [found])
      · exact .inr (by simp [found])

/-- The items from the one at this index on, up to the closing bracket. -/
inductive Remaining (depth : Nat) : Nat → List UInt8 → List Json → List UInt8 → Prop
  | none {index input rest} (close : skipBlank input = 0x5d :: rest) :
      Remaining depth index input [] rest
  | some {index input c inner items rest} (item : ItemAt index input (c :: inner))
      (more : c ≠ 0x5d) (reads : Reads depth (c :: inner) (.items items) rest) :
      Remaining depth index input items rest

theorem ItemAt.unique {index : Nat} {item item' : List UInt8} (first : ItemAt index input item)
    (second : ItemAt index input item') : item = item' := by
  cases first with
  | first start =>
    cases second with
    | first start' => exact start.symm.trans start'
  | later comma start =>
    cases second with
    | later comma' start' =>
      cases comma.symm.trans comma'
      exact start.symm.trans start'

theorem ItemAt.not_close {index : Nat} {c : UInt8} {inner : List UInt8}
    (item : ItemAt index input (c :: inner)) (more : c ≠ 0x5d)
    (close : skipBlank input = 0x5d :: rest) : False := by
  cases item with
  | first start =>
    cases start.symm.trans close
    exact more rfl
  | later comma => cases comma.symm.trans close

theorem Remaining.rest_of_close {index : Nat} {items : List Json}
    (remaining : Remaining depth index input items rest)
    (close : skipBlank input = 0x5d :: tail) : tail = rest ∧ items = [] := by
  cases remaining with
  | none close' =>
    cases close.symm.trans close'
    exact ⟨rfl, rfl⟩
  | some item more => exact (item.not_close more close).elim

/-- Behind the first of the items that remain, the others remain. -/
theorem Remaining.cons {index : Nat} {items : List Json} {c : UInt8} {inner : List UInt8}
    (remaining : Remaining depth index input items rest) (item : ItemAt index input (c :: inner))
    (more : c ≠ 0x5d) : ∃ j others behind, items = j :: others ∧
      Reads depth (c :: inner) (.value j) behind ∧
      Remaining depth (index + 1) behind others rest := by
  cases remaining with
  | none close => exact (item.not_close more close).elim
  | some item' _ reads =>
    cases item.unique item'
    cases reads with
    | lastItem value close => exact ⟨_, [], _, rfl, value, .none close⟩
    | nextItem value comma start more others =>
      exact ⟨_, _, _, rfl, value, .some (.later comma start) more others⟩

theorem Fits.agrees {index : Nat} {items : List Json}
    (agrees : ∀ field ∈ fields, field.Agrees depth name view meaning)
    (required : ∀ field ∈ fields, field.required = true)
    (distinct : (fields.map Field.name).Nodup)
    (fits : Fits depth index fields record input filled tail)
    (remaining : Remaining depth index input items rest) :
    tail = rest ∧
      view filled = overlay view meaning record (((fields.map Field.name).zip items).lookup name) ∧
      (name ∈ fields.map Field.name → (((fields.map Field.name).zip items).lookup name).isSome) := by
  induction fits generalizing items with
  | done close =>
    obtain ⟨rfl, rfl⟩ := remaining.rest_of_close close
    exact ⟨rfl, rfl, fun none => absurd none List.not_mem_nil⟩
  | short optional =>
    rw [required _ (List.mem_cons_self ..)] at optional
    cases optional
  | @next index field fields record input c inner record' behind filled tail item more read _ ih =>
    obtain ⟨j, others, behind', rfl, value, remaining⟩ := remaining.cons item more
    obtain ⟨rfl, seen⟩ := agrees field (List.mem_cons_self ..) _ _ _ _ _ _ read value
    obtain ⟨new, distinct⟩ := List.nodup_cons.1 distinct
    obtain ⟨rfl, later, present⟩ := ih
      (fun field inside => agrees field (List.mem_cons_of_mem _ inside))
      (fun field inside => required field (List.mem_cons_of_mem _ inside)) distinct remaining
    rw [List.map_cons, List.zip_cons_cons, List.lookup_cons]
    by_cases called : field.name = name
    · subst called
      have absent : ((fields.map Field.name).zip others).lookup field.name = none := by
        apply List.lookup_eq_none_iff.2
        intro pair inside
        apply bne_iff_ne.2
        rintro same
        exact new (same ▸ (List.of_mem_zip inside).1)
      rw [absent] at later
      rw [if_pos rfl] at seen
      simp only [beq_self_eq_true, true_and]
      exact ⟨later.trans seen, fun _ => rfl⟩
    · have different : (name == field.name) = false := beq_eq_false_iff_ne.2 (Ne.symm called)
      rw [if_neg called] at seen
      simp only [different, true_and]
      refine ⟨?_, fun inside => present ?_⟩
      · rw [later, overlay, overlay, seen]
      · exact (List.mem_cons.1 inside).resolve_left (Ne.symm called)

/-- A record and a value that are read from the same input end at the same place, and the view of the
record is what the value has for the field. -/
theorem Record.Reads.agrees {r : Record σ} {j : Json}
    (agrees : ∀ field ∈ r.fields, field.Agrees depth name view meaning)
    (required : ∀ field ∈ r.fields, field.required = true)
    (distinct : (r.fields.map Field.name).Nodup) (known : name ∈ r.fields.map Field.name)
    (filling : r.Reads record (depth + 1) input filled tail)
    (reads : Json.Reads (depth + 1) input (.value j) rest) :
    tail = rest ∧ ∃ k, r.member? name j = some k ∧ view filled = meaning k := by
  have found {o : Option Json} (present : o.isSome)
      (seen : view filled = overlay view meaning record o) :
      ∃ k, o = some k ∧ view filled = meaning k := by
    obtain ⟨k, rfl⟩ := Option.isSome_iff_exists.1 present
    exact ⟨k, rfl, seen⟩
  obtain ⟨field, inside, called⟩ := List.mem_map.1 known
  cases filling with
  | empty _ _ optional =>
    have needed := required field inside
    rw [optional field inside] at needed
    cases needed
  | object brace start more fills complete =>
    cases reads with
    | scalar first read =>
      cases brace.symm.trans first
      exact absurd rfl (Starts.of_scalar read).2.2
    | noItems bracket | list bracket => cases brace.symm.trans bracket
    | noMembers brace' close =>
      cases brace.symm.trans brace'
      cases start.symm.trans close
      exact absurd rfl more
    | object brace' start' _ others =>
      cases brace.symm.trans brace'
      cases start.symm.trans start'
      obtain ⟨rfl, seen, present⟩ := fills.agrees agrees known others
      have given := present (called ▸ complete field inside (required field inside))
      exact ⟨rfl, found (given.resolve_left List.not_mem_nil) seen⟩
  | list bracket fits =>
    cases reads with
    | scalar first read =>
      cases bracket.symm.trans first
      exact absurd rfl (Starts.of_scalar read).2.1
    | noMembers brace | object brace => cases bracket.symm.trans brace
    | noItems bracket' close =>
      cases bracket.symm.trans bracket'
      obtain ⟨rfl, seen, present⟩ := fits.agrees agrees required distinct (.none close)
      exact ⟨rfl, found (present known) seen⟩
    | list bracket' start more items =>
      cases bracket.symm.trans bracket'
      obtain ⟨rfl, seen, present⟩ := fits.agrees agrees required distinct
        (.some (.first start) more items)
      exact ⟨rfl, found (present known) seen⟩

end Agreement

section TextFields

variable {β : Type} {depth : Nat} {name field expected : String} {required : Bool}
variable {parse : String → Except String β} {put : σ → β → σ}

theorem rest_of_readParsed {input tail rest : List UInt8} {x : β} {j : Json}
    (read : readParsed expected parse input = .ok (x, tail))
    (reads : Reads depth input (.value j) rest) : tail = rest := by
  unfold readParsed at read
  split at read
  · cases read
  next b behind first =>
  split at read
  · next quote =>
    subst quote
    split at read
    · cases read
    next s behind text =>
    split at read
    · cases read
      cases reads with
      | scalar first' read =>
        cases first.symm.trans first'
        have quoted : scalar 0x22 _ = .ok (.string s, tail) := congrArg (Except.map _) text
        cases quoted.symm.trans read
        rfl
      | noItems bracket | list bracket => cases first.symm.trans bracket
      | noMembers brace | object brace => cases first.symm.trans brace
    · cases read
  · exact absurd read unexpected_ne_ok

theorem textField_agrees {view : σ → α} {meaning : Json → α}
    (kept : ∀ record x, view (put record x) = view record) (other : field ≠ name) :
    (textField field required expected parse put).Agrees depth name view meaning := by
  intro record next input tail j rest read reads
  obtain ⟨x, parsed, rfl⟩ := textField_read read
  exact ⟨rest_of_readParsed parsed reads, (kept record x).trans (if_neg other).symm⟩

end TextFields

end TopicGateway.Json
