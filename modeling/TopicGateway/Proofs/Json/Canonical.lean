import TopicGateway.Json.Basic

/-! A value whose names ascend at every level is its own canonical form. -/
namespace TopicGateway.Json

theorem insertMember_of_first {α : Type} {name : String} {value : α} {ms : List (String × α)}
    (first : ∀ other ∈ ms.map Prod.fst, name < other) :
    insertMember name value ms = (name, value) :: ms := by
  cases ms with
  | nil => rfl
  | cons m ms =>
    obtain ⟨other, kept⟩ := m
    exact if_pos (first other (List.mem_cons_self ..))

theorem insertMember_nil {α : Type} (name : String) (value : α) :
    insertMember name value [] = [(name, value)] := by
  rfl

theorem insertMember_before {α : Type} {name other : String} (before : name < other)
    (value kept : α) (rest : List (String × α)) :
    insertMember name value ((other, kept) :: rest) = (name, value) :: (other, kept) :: rest :=
  if_pos before

theorem insertMember_after {α : Type} {name other : String} (after : other < name)
    (value kept : α) (rest : List (String × α)) :
    insertMember name value ((other, kept) :: rest) =
      (other, kept) :: insertMember name value rest := by
  have behind : ¬name < other := String.not_lt.2 (Std.le_of_lt after)
  have distinct : name ≠ other := by
    rintro rfl
    exact behind after
  rw [insertMember, if_neg behind, if_neg distinct]

theorem sortMembers_of_ascending {α : Type} {ms : List (String × α)}
    (ascending : (ms.map Prod.fst).Pairwise (· < ·)) : sortMembers ms = ms := by
  induction ms with
  | nil => rfl
  | cons m ms ih =>
    obtain ⟨name, value⟩ := m
    obtain ⟨first, rest⟩ := List.pairwise_cons.1 ascending
    have sorted := ih rest
    rw [sortMembers] at sorted ⊢
    rw [List.foldr_cons, sorted]
    exact insertMember_of_first first

mutual

theorem canonical_eq : (j : Json) → j.Canonical → j.canonical = j
  | .null, _ | .bool _, _ | .number _, _ | .string _, _ => rfl
  | .array items, ascending => by
    rw [canonical, canonicalItems_eq items ascending]
  | .object members, ascending => by
    rw [canonical, canonicalMembers_eq members ascending.2, sortMembers_of_ascending ascending.1]

theorem canonicalItems_eq : (items : List Json) → CanonicalItems items →
    canonicalItems items = items
  | [], _ => rfl
  | j :: items, ascending => by
    rw [canonicalItems, canonical_eq j ascending.1, canonicalItems_eq items ascending.2]

theorem canonicalMembers_eq : (members : List (String × Json)) → CanonicalMembers members →
    canonicalMembers members = members
  | [], _ => rfl
  | (name, j) :: members, ascending => by
    rw [canonicalMembers, canonical_eq j ascending.1, canonicalMembers_eq members ascending.2]

end

/-- What is kept of a value that is kept is that value. -/
theorem Value.value_json (v : Value) : v.json.value = v := by
  obtain ⟨j, ascending⟩ := v
  simp only [value, canonical_eq j ascending]

theorem Object.canonical_value (o : Object) : o.value.json.canonical = o.value.json :=
  canonical_eq _ o.value.canonical

theorem Object.object?_value_json (o : Object) : o.value.json.value.object? = some o := by
  rw [o.value.value_json]
  rfl

end TopicGateway.Json
