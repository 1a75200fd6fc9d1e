import TopicGateway.Proofs.Yaml.Floats
import TopicGateway.Proofs.Yaml.Nodes
import TopicGateway.Yaml.Record

/-! Values that are read from the nodes of a written one, wherever these stand in a document. A record
is filled member by member, each one going to the field of its name. -/
namespace TopicGateway.Yaml

/-- The nodes of the value are read as `a`, and what is behind them is left. -/
def ReadsAs {α : Type} (read : ReadAt α) (j : Json) (a : α) : Prop :=
  ∀ d path placed rest, placed.map Prod.fst = j.nodes → read d path (placed ++ rest) = .ok (a, rest)

section

variable {α β σ : Type} {j : Json} {a : α}

theorem ReadsAs.map {read : ReadAt α} (reads : ReadsAs read j a) (f : α → β) :
    ReadsAs (fun d path nodes => (read d path nodes).map fun (a, rest) => (f a, rest)) j (f a) := by
  intro d path placed rest same
  simp only [reads d path placed rest same, Except.map]

theorem exists_scalar {placed : List Placed} {s : Scalar}
    (same : placed.map Prod.fst = [.scalar s]) : ∃ mark, placed = [(.scalar s, mark)] := by
  obtain ⟨p, others, rfl, node, none⟩ := List.map_eq_cons_iff.1 same
  obtain ⟨_, mark⟩ := p
  cases node
  cases List.map_eq_nil_iff.1 none
  exact ⟨mark, rfl⟩

theorem reads_string (s : String) : ReadsAs readString (.string s) s := by
  intro d path placed rest same
  obtain ⟨mark, rfl⟩ := exists_scalar same
  rfl

theorem reads_real (r : Real64) : ReadsAs readFloat (.number (.real r)) (.finite r) := by
  intro d path placed rest same
  obtain ⟨mark, rfl⟩ := exists_scalar same
  have float : Scalar.toFloat? ⟨r.text, .plain, none⟩ = some (.finite r) := by
    rw [Scalar.toFloat?, if_pos (.inl rfl)]
    exact float?_text r
  have text : (Json.Number.real r).text = r.text := rfl
  simp only [readFloat, Document.first, List.cons_append, List.nil_append, text, float]

theorem nodes_start (j : Json) : ∃ n rest, j.nodes = n :: rest ∧ n ≠ .sequenceEnd := by
  obtain ⟨l, ls, shape, starts⟩ := j.exists_start
  rw [Json.nodes, shape]
  cases starts <;> exact ⟨_, _, rfl, by simp⟩

theorem itemsWithin_next {item : ReadAt α} {d : Document} {path : Path} {fuel : Nat} {seen : List α}
    {nodes rest : List Placed} {n : Node} {mark : Mark} {others : List Placed}
    (shape : nodes = (n, mark) :: others) (noEnd : n ≠ .sequenceEnd)
    (read : item d (.index seen.length :: path) nodes = .ok (a, rest)) :
    itemsWithin item d path (fuel + 1) seen nodes = itemsWithin item d path fuel (a :: seen) rest := by
  subst shape
  cases n with
  | sequenceEnd => exact absurd rfl noEnd
  | _ => simp only [itemsWithin, read]

theorem itemsWithin_nodes {item : ReadAt α} {items : List Json} {as : List α}
    (reads : List.Forall₂ (ReadsAs item) items as) (d : Document) (path : Path) {fuel : Nat}
    {placed : List Placed} (same : placed.map Prod.fst = items.flatMap Json.nodes) (mark : Mark)
    (rest : List Placed) (seen : List α) (enough : items.length < fuel) :
    itemsWithin item d path fuel seen (placed ++ (.sequenceEnd, mark) :: rest) =
      .ok (seen.reverse ++ as, rest) := by
  induction reads generalizing fuel placed seen with
  | nil =>
    obtain ⟨less, rfl⟩ := Nat.exists_eq_succ_of_ne_zero (Nat.ne_of_gt enough)
    cases List.map_eq_nil_iff.1 same
    simp [itemsWithin]
  | @cons j a items as first _ ih =>
    obtain ⟨less, rfl⟩ := Nat.exists_eq_succ_of_ne_zero (Nat.ne_of_gt (Nat.zero_lt_of_lt enough))
    rw [List.flatMap_cons] at same
    obtain ⟨own, others, rfl, ownNodes, otherNodes⟩ := List.map_eq_append_iff.1 same
    have read := first d (.index seen.length :: path) own
      (others ++ (.sequenceEnd, mark) :: rest) ownNodes
    obtain ⟨n, more, start, noEnd⟩ := nodes_start j
    rw [start] at ownNodes
    obtain ⟨⟨_, place⟩, own, rfl, node, _⟩ := List.map_eq_cons_iff.1 ownNodes
    rw [← node] at noEnd
    rw [List.append_assoc, itemsWithin_next (List.cons_append ..) noEnd read,
      ih otherNodes (a :: seen) (Nat.lt_of_succ_lt_succ enough)]
    simp

/-- The nodes of a collection: its start, those inside, and its end. -/
theorem exists_collection {placed : List Placed} {opening closing : Node} {inner : List Node}
    (same : placed.map Prod.fst = opening :: (inner ++ [closing])) :
    ∃ start inside stop, placed = (opening, start) :: (inside ++ [(closing, stop)]) ∧
      inside.map Prod.fst = inner := by
  obtain ⟨⟨_, start⟩, others, rfl, rfl, otherNodes⟩ := List.map_eq_cons_iff.1 same
  obtain ⟨inside, last, rfl, insideNodes, lastNode⟩ := List.map_eq_append_iff.1 otherNodes
  obtain ⟨⟨_, stop⟩, none, rfl, rfl, empty⟩ := List.map_eq_cons_iff.1 lastNode
  cases List.map_eq_nil_iff.1 empty
  exact ⟨start, inside, stop, rfl, insideNodes⟩

/-- What is between the ends of a collection is enough for a turn at each entry. -/
theorem length_lt_of_inside {γ : Type} {f : γ → List Node} (some : ∀ c, f c ≠ []) {entries : List γ}
    {inside : List Placed} (same : inside.map Prod.fst = entries.flatMap f) (behind : List Placed) :
    entries.length < (inside ++ behind).length + 1 := by
  have bound := length_le_flatMap some entries
  rw [← same, List.length_map] at bound
  rw [List.length_append]
  omega

theorem nodes_ne_nil (j : Json) : j.nodes ≠ [] := by
  obtain ⟨n, rest, start, _⟩ := nodes_start j
  rw [start]
  exact List.cons_ne_nil n rest

theorem reads_items {item : ReadAt α} {items : List Json} {as : List α}
    (reads : List.Forall₂ (ReadsAs item) items as) : ReadsAs (readItems item) (.array items) as := by
  intro d path placed rest same
  rw [Json.nodes_array] at same
  obtain ⟨start, inside, stop, rfl, insideNodes⟩ := exists_collection same
  have enough := length_lt_of_inside nodes_ne_nil insideNodes ((.sequenceEnd, stop) :: rest)
  have read := itemsWithin_nodes reads d path insideNodes stop rest [] enough
  simp only [readItems, Document.first, List.cons_append, List.append_assoc, List.nil_append, read,
    Except.map, Document.First.after, Bool.false_eq_true, if_false, List.reverse_nil]

theorem reads_strings (texts : List String) :
    ReadsAs (readItems readString) (.array (texts.map .string)) texts := by
  apply reads_items
  induction texts with
  | nil => exact .nil
  | cons s texts ih => exact .cons (reads_string s) ih

/-- The members one after another fill the record; `given` names the fields that have a value. -/
inductive Fills (r : Record σ) : List String → σ → List (String × Json) → σ → Prop where
  | done (given : List String) (record : σ) : Fills r given record [] record
  | next {given : List String} {record changed filled : σ} {name : String} {j : Json}
      {members : List (String × Json)} {field : Field σ}
      (found : r.fields.find? (·.name = name) = some field) (new : given.contains name = false)
      (reads : ReadsAs (field.read record) j changed)
      (others : Fills r (name :: given) changed members filled) :
      Fills r given record ((name, j) :: members) filled

theorem Fills.entriesWithin {r : Record σ} {given : List String} {record filled : σ}
    {members : List (String × Json)} (fills : Fills r given record members filled) (d : Document)
    (path : Path) (start : Mark) {fuel : Nat} {placed : List Placed}
    (same : placed.map Prod.fst = members.flatMap Json.memberNodes) (mark : Mark)
    (rest : List Placed) (enough : members.length < fuel) :
    r.entriesWithin d path start fuel given record (placed ++ (.mappingEnd, mark) :: rest) =
      .ok (filled, rest) := by
  induction fills generalizing fuel placed with
  | done given record =>
    obtain ⟨less, rfl⟩ := Nat.exists_eq_succ_of_ne_zero (Nat.ne_of_gt enough)
    cases List.map_eq_nil_iff.1 same
    simp [Record.entriesWithin]
  | @next given record changed filled name j members field found new reads _ ih =>
    obtain ⟨less, rfl⟩ := Nat.exists_eq_succ_of_ne_zero (Nat.ne_of_gt (Nat.zero_lt_of_lt enough))
    rw [List.flatMap_cons, Json.memberNodes, List.cons_append] at same
    obtain ⟨⟨_, place⟩, others, rfl, rfl, otherNodes⟩ := List.map_eq_cons_iff.1 same
    obtain ⟨own, others, rfl, ownNodes, otherNodes⟩ := List.map_eq_append_iff.1 otherNodes
    have read (path : Path) := reads d path own (others ++ (.mappingEnd, mark) :: rest) ownNodes
    have named (path : Path) (behind : List Placed) : readText "field identifier" d path
        ((.scalar ⟨name, .doubleQuoted, none⟩, place) :: behind) = .ok (name, behind) := rfl
    rw [List.cons_append, List.append_assoc]
    simp only [Record.entriesWithin, named, found, new, Bool.false_eq_true, if_false, read]
    exact ih otherNodes (Nat.lt_of_succ_lt_succ enough)

theorem Fills.reads {r : Record σ} {record filled : σ} {members : List (String × Json)}
    (fills : Fills r [] record members filled) : ReadsAs (r.read record) (.object members) filled := by
  intro d path placed rest same
  rw [Json.nodes_object] at same
  obtain ⟨start, inside, stop, rfl, insideNodes⟩ := exists_collection same
  have enough := length_lt_of_inside (fun _ => List.cons_ne_nil _ _) insideNodes
    ((.mappingEnd, stop) :: rest)
  have read := fills.entriesWithin d path start insideNodes stop rest enough
  simp only [Record.read, Document.first, List.cons_append, List.append_assoc, List.nil_append, read,
    Except.map, Document.First.after, Bool.false_eq_true, if_false]

/-- The text of an object whose members fill the record is read as what they make of it. -/
theorem Fills.readWhole {r : Record σ} {record filled : σ} {members : List (String × Json)}
    (fills : Fills r [] record members filled) (legible : Json.LegibleMembers members)
    {ending : List Char} (ends : ending = [] ∨ ending = ['\n']) :
    r.readWhole record (String.ofList ((Json.object members).chars ++ ending)) = .ok filled := by
  obtain ⟨placed, same, document⟩ := Json.read_object legible ends
  have read := fills.reads (Document.mk placed none false) [] placed [] same
  rw [List.append_nil] at read
  rw [Record.readWhole, document]
  simp only [read, Bool.false_eq_true, if_false]

end

end TopicGateway.Yaml
