import TopicGateway.Number.Shortest

/-! JSON values. `Json` is a value as it was written: members in their order, a name possibly more
than once. `Json.Value` is what is kept of it: names in byte order, each once with its last value.
An integer is exact from -2^63 up to below 2^64; every other number is a double. -/

namespace TopicGateway

inductive Json.Number where
  | integer (n : Int) (fits : -2 ^ 63 ≤ n ∧ n < 2 ^ 64)
  | real (r : Real64)
  deriving DecidableEq

inductive Json where
  | null
  | bool (b : Bool)
  | number (n : Json.Number)
  | string (s : String)
  | array (items : List Json)
  | object (members : List (String × Json))
  deriving Inhabited

namespace Json

def Number.ofNat (n : Nat) (h : n < 2 ^ 64) : Number :=
  .integer n (by omega)

def Number.text : Number → String
  | .integer n _ => toString n
  | .real r => r.text

mutual

def decEq : (a b : Json) → Decidable (a = b)
  | .null, .null => isTrue rfl
  | .bool a, .bool b => decidable_of_iff (a = b) (by simp)
  | .number a, .number b => decidable_of_iff (a = b) (by simp)
  | .string a, .string b => decidable_of_iff (a = b) (by simp)
  | .array a, .array b =>
    match decEqItems a b with
    | isTrue h => isTrue (by rw [h])
    | isFalse h => isFalse (by simpa using h)
  | .object a, .object b =>
    match decEqMembers a b with
    | isTrue h => isTrue (by rw [h])
    | isFalse h => isFalse (by simpa using h)
  | .null, .bool _ | .null, .number _ | .null, .string _ | .null, .array _ | .null, .object _
  | .bool _, .null | .bool _, .number _ | .bool _, .string _ | .bool _, .array _
  | .bool _, .object _
  | .number _, .null | .number _, .bool _ | .number _, .string _ | .number _, .array _
  | .number _, .object _
  | .string _, .null | .string _, .bool _ | .string _, .number _ | .string _, .array _
  | .string _, .object _
  | .array _, .null | .array _, .bool _ | .array _, .number _ | .array _, .string _
  | .array _, .object _
  | .object _, .null | .object _, .bool _ | .object _, .number _ | .object _, .string _
  | .object _, .array _ => isFalse (by simp)

def decEqItems : (a b : List Json) → Decidable (a = b)
  | [], [] => isTrue rfl
  | x :: xs, y :: ys =>
    match decEq x y, decEqItems xs ys with
    | isTrue h, isTrue h' => isTrue (by rw [h, h'])
    | isFalse h, _ => isFalse (by simp [h])
    | _, isFalse h => isFalse (by simp [h])
  | [], _ :: _ | _ :: _, [] => isFalse (by simp)

def decEqMembers : (a b : List (String × Json)) → Decidable (a = b)
  | [], [] => isTrue rfl
  | (k, x) :: xs, (l, y) :: ys =>
    if hk : k = l then
      match decEq x y, decEqMembers xs ys with
      | isTrue h, isTrue h' => isTrue (by rw [hk, h, h'])
      | isFalse h, _ => isFalse (by simp [h])
      | _, isFalse h => isFalse (by simp [h])
    else isFalse (by simp [hk])
  | [], _ :: _ | _ :: _, [] => isFalse (by simp)

end

instance : DecidableEq Json := decEq

/-- Put a member into its place by name; a name that is there already keeps its value. -/
def insertMember {α : Type} (name : String) (value : α) :
    List (String × α) → List (String × α)
  | [] => [(name, value)]
  | (other, kept) :: rest =>
    if name < other then (name, value) :: (other, kept) :: rest
    else if name = other then (other, kept) :: rest
    else (other, kept) :: insertMember name value rest

/-- Members in the order of their names, each name once with its last value. -/
def sortMembers {α : Type} (members : List (String × α)) : List (String × α) :=
  members.foldr (fun m sorted => insertMember m.1 m.2 sorted) []

mutual

/-- Names strictly ascending, at every level. -/
def Canonical : Json → Prop
  | .array items => CanonicalItems items
  | .object members => (members.map Prod.fst).Pairwise (· < ·) ∧ CanonicalMembers members
  | _ => True

def CanonicalItems : List Json → Prop
  | [] => True
  | j :: items => j.Canonical ∧ CanonicalItems items

def CanonicalMembers : List (String × Json) → Prop
  | [] => True
  | (_, j) :: members => j.Canonical ∧ CanonicalMembers members

end

mutual

/-- The value with its members sorted and each name kept once, at every level. -/
def canonical : Json → Json
  | .array items => .array (canonicalItems items)
  | .object members => .object (sortMembers (canonicalMembers members))
  | j => j

def canonicalItems : List Json → List Json
  | [] => []
  | j :: items => j.canonical :: canonicalItems items

def canonicalMembers : List (String × Json) → List (String × Json)
  | [] => []
  | (name, j) :: members => (name, j.canonical) :: canonicalMembers members

end

mutual

/-- How many lists and objects stand inside one another. -/
def depth : Json → Nat
  | .array items => depthItems items + 1
  | .object members => depthMembers members + 1
  | _ => 0

def depthItems : List Json → Nat
  | [] => 0
  | j :: items => max j.depth (depthItems items)

def depthMembers : List (String × Json) → Nat
  | [] => 0
  | (_, j) :: members => max j.depth (depthMembers members)

end

theorem mem_insertMember_fst {α : Type} {name : String} {value : α} {ms : List (String × α)}
    {k : String} : k ∈ (insertMember name value ms).map Prod.fst ↔ k = name ∨ k ∈ ms.map Prod.fst := by
  induction ms with
  | nil => simp [insertMember]
  | cons m ms ih =>
    obtain ⟨other, kept⟩ := m
    simp only [insertMember]
    split
    · simp
    · split
      · simp_all
      · simp only [List.map_cons, List.mem_cons, ih]
        constructor <;> (intro h; rcases h with h | h | h <;> simp [h])

theorem pairwise_insertMember {α : Type} (name : String) (value : α) (ms : List (String × α))
    (h : (ms.map Prod.fst).Pairwise (· < ·)) :
    ((insertMember name value ms).map Prod.fst).Pairwise (· < ·) := by
  induction ms with
  | nil => simp [insertMember]
  | cons m ms ih =>
    obtain ⟨other, kept⟩ := m
    simp only [List.map_cons, List.pairwise_cons] at h
    simp only [insertMember]
    split
    · next hlt =>
      simp only [List.map_cons, List.pairwise_cons, List.mem_cons]
      refine ⟨?_, h.1, h.2⟩
      rintro k (rfl | hk)
      · exact hlt
      · exact String.lt_trans hlt (h.1 k hk)
    · next hlt =>
      split
      · simpa using h
      · next hne =>
        simp only [List.map_cons, List.pairwise_cons]
        refine ⟨?_, ih h.2⟩
        intro k hk
        rcases mem_insertMember_fst.1 hk with rfl | hk
        · exact Std.lt_of_le_of_ne (String.not_lt.1 hlt) (Ne.symm hne)
        · exact h.1 k hk

theorem pairwise_sortMembers {α : Type} (ms : List (String × α)) :
    ((sortMembers ms).map Prod.fst).Pairwise (· < ·) := by
  induction ms with
  | nil => simp [sortMembers]
  | cons m ms ih => exact pairwise_insertMember m.1 m.2 _ ih

theorem canonicalMembers_insertMember {name : String} {j : Json} {ms : List (String × Json)}
    (hj : j.Canonical) (h : CanonicalMembers ms) : CanonicalMembers (insertMember name j ms) := by
  induction ms with
  | nil => simp [insertMember, CanonicalMembers, hj]
  | cons m ms ih =>
    obtain ⟨other, kept⟩ := m
    simp only [CanonicalMembers] at h
    simp only [insertMember]
    split
    · simp [CanonicalMembers, hj, h]
    · split
      · simp [CanonicalMembers, h]
      · simp [CanonicalMembers, h.1, ih h.2]

theorem canonicalMembers_sortMembers {ms : List (String × Json)} (h : CanonicalMembers ms) :
    CanonicalMembers (sortMembers ms) := by
  induction ms with
  | nil => simp [sortMembers, CanonicalMembers]
  | cons m ms ih => exact canonicalMembers_insertMember h.1 (ih h.2)

mutual

theorem canonical_canonical : (j : Json) → j.canonical.Canonical
  | .null | .bool _ | .number _ | .string _ => by simp [canonical, Canonical]
  | .array items => by simpa [canonical, Canonical] using canonicalItems_canonical items
  | .object members => by
    simp only [canonical, Canonical]
    exact ⟨pairwise_sortMembers _, canonicalMembers_sortMembers (canonicalMembers_canonical members)⟩

theorem canonicalItems_canonical : (items : List Json) → CanonicalItems (canonicalItems items)
  | [] => by simp [canonicalItems, CanonicalItems]
  | j :: items => by
    simpa [canonicalItems, CanonicalItems] using
      ⟨canonical_canonical j, canonicalItems_canonical items⟩

theorem canonicalMembers_canonical :
    (members : List (String × Json)) → CanonicalMembers (canonicalMembers members)
  | [] => by simp [canonicalMembers, CanonicalMembers]
  | (_, j) :: members => by
    simpa [canonicalMembers, CanonicalMembers] using
      ⟨canonical_canonical j, canonicalMembers_canonical members⟩

end

/-- What is kept of a JSON value: sorted members, each name once. -/
structure Value where
  json : Json
  canonical : json.Canonical
  deriving DecidableEq

structure Object where
  members : List (String × Json)
  canonical : (Json.object members).Canonical
  deriving DecidableEq

def value (j : Json) : Value :=
  ⟨j.canonical, canonical_canonical j⟩

namespace Value

def object? : Value → Option Object
  | ⟨.object members, h⟩ => some ⟨members, h⟩
  | _ => none

def null : Value := ⟨.null, trivial⟩

end Value

namespace Object

def empty : Object := ⟨[], by simp [Canonical, CanonicalMembers]⟩

def value (o : Object) : Value := ⟨.object o.members, o.canonical⟩

def get? (o : Object) (name : String) : Option Json :=
  o.members.lookup name

def contains (o : Object) (name : String) : Bool :=
  (o.get? name).isSome

end Object

end Json

end TopicGateway
