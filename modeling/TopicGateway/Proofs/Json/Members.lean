import TopicGateway.Proofs.Json.Canonical

/-! Members by their names. Of a name that was written more than once the last value counts, and that
is the one that sorting keeps. -/
namespace TopicGateway.Json

/-- The member of this name as it was written, the last one of several. -/
def member? : Json → String → Option Json
  | .object members, name => members.reverse.lookup name
  | _, _ => none

section Sorting

variable {α : Type}

theorem lookup_eq_none_of_first {name : String} {members : List (String × α)}
    (first : ∀ other ∈ members.map Prod.fst, name < other) : members.lookup name = none := by
  apply List.lookup_eq_none_iff.2
  intro m member
  have before := first m.1 (List.mem_map_of_mem member)
  apply bne_iff_ne.2
  intro same
  rw [← same] at before
  exact String.lt_irrefl name before

/-- What is put into its place does not replace a value that is there. -/
theorem lookup_insertMember {members : List (String × α)}
    (ascending : (members.map Prod.fst).Pairwise (· < ·)) (name : String) (value : α)
    (other : String) :
    (insertMember name value members).lookup other =
      (members.lookup other).or ([(name, value)].lookup other) := by
  induction members with
  | nil => rfl
  | cons m members ih =>
    obtain ⟨first, kept⟩ := m
    rw [insertMember]
    split
    · next before =>
      by_cases same : other = name
      · subst same
        have absent : ((first, kept) :: members).lookup other = none := by
          apply lookup_eq_none_of_first
          intro k member
          rcases List.mem_cons.1 member with rfl | later
          · exact before
          · exact String.lt_trans before ((List.pairwise_cons.1 ascending).1 k later)
        rw [absent]
        simp
      · have different : (other == name) = false := beq_eq_false_iff_ne.2 same
        simp only [List.lookup_cons, different, List.lookup_nil, Option.or_none]
    split
    · next same =>
      subst same
      by_cases found : other = name
      · simp [found]
      · have different : (other == name) = false := beq_eq_false_iff_ne.2 found
        simp only [List.lookup_cons, different, List.lookup_nil, Option.or_none]
    · by_cases found : other = first
      · simp [found]
      · have different : (other == first) = false := beq_eq_false_iff_ne.2 found
        simp only [List.lookup_cons, different] at ih ⊢
        exact ih (List.pairwise_cons.1 ascending).2

theorem lookup_sortMembers (members : List (String × α)) (name : String) :
    (sortMembers members).lookup name = members.reverse.lookup name := by
  induction members with
  | nil => rfl
  | cons m members ih =>
    calc (sortMembers (m :: members)).lookup name
        = ((sortMembers members).lookup name).or ([m].lookup name) :=
          lookup_insertMember (pairwise_sortMembers members) m.1 m.2 name
      _ = (members.reverse.lookup name).or ([m].lookup name) := by rw [ih]
      _ = (m :: members).reverse.lookup name := by rw [List.reverse_cons, List.lookup_append]

end Sorting

theorem canonicalMembers_eq_map (members : List (String × Json)) :
    canonicalMembers members = members.map fun m => (m.1, m.2.canonical) := by
  induction members with
  | nil => rfl
  | cons m members ih => rw [canonicalMembers, ih, List.map_cons]

theorem lookup_canonicalMembers (members : List (String × Json)) (name : String) :
    (canonicalMembers members).lookup name = (members.lookup name).map canonical := by
  induction members with
  | nil => rfl
  | cons m members ih =>
    obtain ⟨other, j⟩ := m
    rw [canonicalMembers, List.lookup_cons, List.lookup_cons]
    split
    · rfl
    · exact ih

theorem lookup_members_canonical (members : List (String × Json)) (name : String) :
    (sortMembers (canonicalMembers members)).lookup name =
      ((Json.object members).member? name).map canonical := by
  have turned : (canonicalMembers members).reverse = canonicalMembers members.reverse := by
    rw [canonicalMembers_eq_map, canonicalMembers_eq_map, List.map_reverse]
  rw [lookup_sortMembers, turned, lookup_canonicalMembers, member?]

/-- A member of an object that is kept is what is kept of the member as written. -/
theorem Object.get?_of_value {j : Json} {o : Object} (kept : j.value.object? = some o)
    (name : String) : o.get? name = (j.member? name).map Json.canonical := by
  cases j with
  | object members =>
    cases kept
    exact lookup_members_canonical members name
  | null | bool _ | number _ | string _ | array _ => cases kept

theorem value_canonical (j : Json) : j.canonical.value = j.value :=
  j.value.value_json

theorem depth_le_of_mem {m : String × Json} {members : List (String × Json)} (member : m ∈ members) :
    m.2.depth ≤ depthMembers members := by
  induction members with
  | nil => cases member
  | cons first members ih =>
    rw [depthMembers]
    rcases List.mem_cons.1 member with rfl | later
    · exact Nat.le_max_left ..
    · exact Nat.le_trans (ih later) (Nat.le_max_right ..)

/-- A member stands at least one level further in than its object. -/
theorem depth_member?_lt {j k : Json} {name : String} (member : j.member? name = some k) :
    k.depth < j.depth := by
  cases j with
  | object members =>
    obtain ⟨before, after, split, _⟩ := List.lookup_eq_some_iff.1 member
    have inside : (name, k) ∈ members := by
      apply List.mem_reverse.1
      rw [split]
      simp
    have bound : k.depth ≤ depthMembers members := depth_le_of_mem inside
    rw [depth]
    exact Nat.lt_succ_of_le bound
  | null | bool _ | number _ | string _ | array _ => cases member

end TopicGateway.Json
