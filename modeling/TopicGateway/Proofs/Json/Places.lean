import TopicGateway.Proofs.Json.Entries
import TopicGateway.Proofs.Json.Integers
import TopicGateway.Proofs.Json.Members

/-! Places inside a value and inside the text that it is read from. A path leads to a place in the text
without a look at anything but brackets, names and what has to be passed over; the value that is read
has at the path what is read there. -/
namespace TopicGateway.Json

/-- A step from a list or an object to something that stands in it. -/
inductive Step where
  | item (index : Nat)
  | member (name : String)
  deriving DecidableEq

abbrev Path := List Step

/-- What a value has one step further in; of members with one name the last one. -/
def step? : Json → Step → Option Json
  | .array items, .item index => items[index]?
  | _, .item _ => none
  | j, .member name => j.member? name

/-- What a value has at a place. -/
def at? : Path → Json → Option Json
  | [], j => some j
  | step :: path, j => (j.step? step).bind (at? path)

@[simp] theorem step?_member (j : Json) (name : String) : j.step? (.member name) = j.member? name := by
  cases j <;> rfl

@[simp] theorem at?_member (j : Json) (name : String) (path : Path) :
    j.at? (.member name :: path) = (j.member? name).bind (at? path) := by
  rw [at?, step?_member]

theorem at?_singleton (j : Json) (name : String) : j.at? [.member name] = j.member? name := by
  rw [at?_member]
  exact Option.bind_fun_some _

/-- Where an item starts, from behind the bracket or the comma in front of the first. -/
inductive ItemLeads : Nat → List UInt8 → List UInt8 → Prop
  | first {input c inner} (start : skipBlank input = c :: inner) (more : c ≠ 0x5d) :
      ItemLeads 0 input (c :: inner)
  | later {depth index input c inner j tail behind item} (start : skipBlank input = c :: inner)
      (more : c ≠ 0x5d) (passed : Reads depth (c :: inner) (.value j) tail)
      (comma : skipBlank tail = 0x2c :: behind) (others : ItemLeads index behind item) :
      ItemLeads (index + 1) input item

/-- Where the value of a name starts, the last one of several, from the name of the first member. -/
inductive MemberLeads (name : String) : List UInt8 → List UInt8 → Prop
  | here {depth input value j members rest} (named : memberName input = .ok (name, value))
      (object : Reads depth input (.members ((name, j) :: members)) rest)
      (last : ∀ m ∈ members, m.1 ≠ name) : MemberLeads name input value
  | later {depth input other first j tail behind c next value}
      (named : memberName input = .ok (other, first)) (passed : Reads depth first (.value j) tail)
      (comma : skipBlank tail = 0x2c :: behind) (start : skipBlank behind = c :: next)
      (others : MemberLeads name (c :: next) value) : MemberLeads name input value

/-- `Leads path input place`: the path leads to this place in the text. -/
inductive Leads : Path → List UInt8 → List UInt8 → Prop
  | here {input} : Leads [] input input
  | item {index path input tail inner place} (bracket : skipBlank input = 0x5b :: tail)
      (item : ItemLeads index tail inner) (inside : Leads path inner place) :
      Leads (.item index :: path) input place
  | member {name path input tail c next value place} (bracket : skipBlank input = 0x7b :: tail)
      (start : skipBlank tail = c :: next) (member : MemberLeads name (c :: next) value)
      (inside : Leads path value place) : Leads (.member name :: path) input place

section Reading

variable {depth level : Nat} {input rest tail place : List UInt8} {j k : Json}

/-- `Reads.unique`, whatever the depths that are allowed. -/
theorem Reads.same (first : Reads depth input (.value j) rest)
    (second : Reads level input (.value k) tail) : j = k ∧ rest = tail :=
  (first.deeper (Nat.le_max_left depth level)).unique (second.deeper (Nat.le_max_right depth level))

theorem Reads.same_members {ms ns : List (String × Json)} (first : Reads depth input (.members ms) rest)
    (second : Reads level input (.members ns) tail) : ms = ns ∧ rest = tail := by
  have first := (first.deeper (Nat.le_max_left depth level)).readWithin
  have second := (second.deeper (Nat.le_max_right depth level)).readWithin
  obtain ⟨fuel, both⟩ := first.and second
  obtain ⟨first, second⟩ := both fuel (Nat.le_refl _)
  have same : (.ok (.object ms, rest) : Answer Json) = .ok (.object ns, tail) :=
    (first []).symm.trans (second [])
  cases same
  exact ⟨rfl, rfl⟩

theorem ItemLeads.start {index : Nat} {item : List UInt8} (leads : ItemLeads index input item) :
    ∃ c inner, skipBlank input = c :: inner ∧ c ≠ 0x5d := by
  cases leads with
  | first start more => exact ⟨_, _, start, more⟩
  | later start more => exact ⟨_, _, start, more⟩

/-- No name starts with the bracket that closes an object. -/
theorem not_memberLeads_close {name : String} {value : List UInt8} :
    ¬MemberLeads name (0x7d :: input) value := by
  rintro (⟨named, _, _⟩ | ⟨named, _, _, _, _⟩) <;> cases named

theorem ItemLeads.reads {index : Nat} {c : UInt8} {inner item : List UInt8} {items : List Json}
    (leads : ItemLeads index input item) (start : skipBlank input = c :: inner)
    (inside : Reads depth (c :: inner) (.items items) rest) :
    ∃ k tail, items[index]? = some k ∧ Reads depth item (.value k) tail := by
  induction leads generalizing c inner items with
  | first begins =>
    cases begins.symm.trans start
    cases inside with
    | lastItem value => exact ⟨_, _, rfl, value⟩
    | nextItem value => exact ⟨_, _, rfl, value⟩
  | later begins _ passed comma _ ih =>
    cases begins.symm.trans start
    cases inside with
    | lastItem value close =>
      obtain ⟨_, rfl⟩ := value.same passed
      cases close.symm.trans comma
    | nextItem value comma' start' _ others =>
      obtain ⟨_, rfl⟩ := value.same passed
      cases comma.symm.trans comma'
      exact ih start' others

/-- The first of the members is the last of its name if the others have other names. -/
theorem lookup_reverse_cons {name : String} {members : List (String × Json)}
    (last : ∀ m ∈ members, m.1 ≠ name) : ((name, j) :: members).reverse.lookup name = some j := by
  have alone : members.reverse.lookup name = none := by
    apply List.lookup_eq_none_iff.2
    intro m member
    exact bne_iff_ne.2 (last m (List.mem_reverse.1 member)).symm
  rw [List.reverse_cons, List.lookup_append, alone]
  simp

theorem MemberLeads.reads {name : String} {value : List UInt8} {members : List (String × Json)}
    (leads : MemberLeads name input value) (inside : Reads depth input (.members members) rest) :
    ∃ k tail, members.reverse.lookup name = some k ∧ Reads depth value (.value k) tail := by
  induction leads generalizing members with
  | here named object last =>
    obtain ⟨rfl, _⟩ := inside.same_members object
    cases inside with
    | lastMember named' value =>
      cases named.symm.trans named'
      exact ⟨_, _, lookup_reverse_cons last, value⟩
    | nextMember named' value =>
      cases named.symm.trans named'
      exact ⟨_, _, lookup_reverse_cons last, value⟩
  | later named passed comma start _ ih =>
    cases inside with
    | lastMember named' value close =>
      cases named.symm.trans named'
      obtain ⟨_, rfl⟩ := value.same passed
      cases close.symm.trans comma
    | nextMember named' value comma' start' _ others =>
      cases named.symm.trans named'
      obtain ⟨_, rfl⟩ := value.same passed
      cases comma.symm.trans comma'
      cases start.symm.trans start'
      obtain ⟨k, tail, found, reads⟩ := ih others
      refine ⟨k, tail, ?_, reads⟩
      rw [List.reverse_cons, List.lookup_append, found]
      rfl

/-- At the place that a path leads to stands what the value has at the path. -/
theorem Leads.reads {path : Path} (leads : Leads path input place)
    (reads : Reads depth input (.value j) rest) :
    ∃ k level tail, j.at? path = some k ∧ Reads level place (.value k) tail := by
  induction leads generalizing depth j rest with
  | here => exact ⟨j, depth, rest, rfl, reads⟩
  | item bracket item _ ih =>
    obtain ⟨c, inner, start, more⟩ := item.start
    cases reads with
    | scalar first read =>
      cases bracket.symm.trans first
      exact absurd rfl (Starts.of_scalar read).2.1
    | noItems bracket' close =>
      cases bracket.symm.trans bracket'
      cases start.symm.trans close
      exact absurd rfl more
    | noMembers bracket' | object bracket' => cases bracket.symm.trans bracket'
    | list bracket' start' _ inside =>
      cases bracket.symm.trans bracket'
      obtain ⟨k, tail, found, reads⟩ := item.reads start' inside
      obtain ⟨k, level, tail, further, reads⟩ := ih reads
      exact ⟨k, level, tail, by simp [at?, step?, found, further], reads⟩
  | member bracket start member _ ih =>
    cases reads with
    | scalar first read =>
      cases bracket.symm.trans first
      exact absurd rfl (Starts.of_scalar read).2.2
    | noMembers bracket' close =>
      cases bracket.symm.trans bracket'
      cases start.symm.trans close
      exact absurd member not_memberLeads_close
    | noItems bracket' | list bracket' => cases bracket.symm.trans bracket'
    | object bracket' start' _ inside =>
      cases bracket.symm.trans bracket'
      cases start.symm.trans start'
      obtain ⟨k, tail, found, reads⟩ := member.reads inside
      obtain ⟨k, level, tail, further, reads⟩ := ih reads
      exact ⟨k, level, tail, by simp [at?, step?, member?, found, further], reads⟩

theorem itemLeads_of_getElem? {index : Nat} {c : UInt8} {inner : List UInt8} {items : List Json}
    (start : skipBlank input = c :: inner) (more : c ≠ 0x5d)
    (inside : Reads depth (c :: inner) (.items items) rest) (found : items[index]? = some k) :
    ∃ item, ItemLeads index input item := by
  induction index generalizing input c inner items with
  | zero => exact ⟨_, .first start more⟩
  | succ index ih =>
    cases inside with
    | lastItem => cases found
    | nextItem passed comma start' more' others =>
      obtain ⟨item, leads⟩ := ih start' more' others found
      exact ⟨item, .later start more passed comma leads⟩

theorem memberLeads_of_lookup {name : String} {members : List (String × Json)}
    (inside : Reads depth input (.members members) rest)
    (found : members.reverse.lookup name = some k) : ∃ value, MemberLeads name input value := by
  induction members generalizing input k with
  | nil => cases found
  | cons m members ih =>
    cases later : members.reverse.lookup name with
    | some last =>
      cases inside with
      | lastMember => cases later
      | nextMember named passed comma start _ others =>
        obtain ⟨value, leads⟩ := ih others later
        exact ⟨value, .later named passed comma start leads⟩
    | none =>
      rw [List.reverse_cons, List.lookup_append, later, Option.none_or] at found
      have same : m.1 = name := by
        by_contra other
        have different : (name == m.1) = false := beq_eq_false_iff_ne.2 (Ne.symm other)
        rw [List.lookup_cons, different] at found
        cases found
      have last : ∀ m ∈ members, m.1 ≠ name := by
        intro m member
        exact (bne_iff_ne.1 (List.lookup_eq_none_iff.1 later m (List.mem_reverse.2 member))).symm
      subst same
      have object := inside
      cases inside with
      | lastMember named => exact ⟨_, .here named object last⟩
      | nextMember named => exact ⟨_, .here named object last⟩

/-- There is a place for whatever the value has. -/
theorem Leads.of_at? {path : Path} (reads : Reads depth input (.value j) rest)
    (found : j.at? path = some k) : ∃ place, Leads path input place := by
  induction path generalizing depth input rest j with
  | nil => exact ⟨input, .here⟩
  | cons step path ih =>
    obtain ⟨child, stepped, inner⟩ := Option.bind_eq_some_iff.1 found
    cases step with
    | item index =>
      cases reads with
      | scalar first read => cases spelt_of_scalar read <;> cases stepped
      | noItems | noMembers | object => cases stepped
      | list bracket start more inside =>
        obtain ⟨item, leads⟩ := itemLeads_of_getElem? start more inside stepped
        obtain ⟨k, tail, same, reads⟩ := leads.reads start inside
        cases stepped.symm.trans same
        obtain ⟨place, further⟩ := ih reads inner
        exact ⟨place, .item bracket leads further⟩
    | member name =>
      cases reads with
      | scalar first read => cases spelt_of_scalar read <;> cases stepped
      | noItems | noMembers | list => cases stepped
      | object bracket start more inside =>
        obtain ⟨value, leads⟩ := memberLeads_of_lookup inside stepped
        obtain ⟨k, tail, same, reads⟩ := leads.reads inside
        cases stepped.symm.trans same
        obtain ⟨place, further⟩ := ih reads inner
        exact ⟨place, .member bracket start leads further⟩

/-- A whole number stands at a place of a text, in plain decimal form. -/
def Stands (path : Path) (text : List UInt8) (n : Int) : Prop :=
  ∃ place rest, Leads path text place ∧ Plain n place rest

variable {path : Path} {text : List UInt8} {n : Int}

theorem Stands.at?_eq (stands : Stands path text n) (read : Json.read text = .ok j) :
    ∃ number, Number.ofInt? n = some number ∧ j.at? path = some (.number number) := by
  obtain ⟨place, rest, leads, plain⟩ := stands
  obtain ⟨_, reads, _⟩ := read_eq_ok read
  obtain ⟨k, level, tail, found, inside⟩ := leads.reads reads
  obtain ⟨_, number, held, rfl⟩ := plain.reads_iff.1 inside
  exact ⟨number, held, found⟩

/-- What the value has at a path is an integer where this integer stands in the text. -/
theorem at?_eq_integer_iff (fits : -2 ^ 63 ≤ n ∧ n < 2 ^ 64) (read : Json.read text = .ok j) :
    j.at? path = some (.number (.integer n fits)) ↔ Stands path text n := by
  constructor
  · intro found
    obtain ⟨_, reads, _⟩ := read_eq_ok read
    obtain ⟨place, leads⟩ := Leads.of_at? reads found
    obtain ⟨k, level, tail, same, inside⟩ := leads.reads reads
    cases found.symm.trans same
    exact ⟨place, tail, leads, (reads_integer_iff fits).1 inside⟩
  · intro stands
    obtain ⟨number, held, found⟩ := stands.at?_eq read
    cases held.symm.trans (ofInt?_of_fits fits)
    exact found

/-- Outside the range a double is in its place. -/
theorem Stands.at?_real (stands : Stands path text n) (outside : ¬(-2 ^ 63 ≤ n ∧ n < 2 ^ 64))
    (read : Json.read text = .ok j) : ∃ x, j.at? path = some (.number (.real x)) := by
  obtain ⟨number, held, found⟩ := stands.at?_eq read
  obtain ⟨x, rfl⟩ := exists_real_of_outside outside held
  exact ⟨x, found⟩

end Reading

theorem canonicalItems_eq_map (items : List Json) : canonicalItems items = items.map canonical := by
  induction items with
  | nil => rfl
  | cons j items ih => rw [canonicalItems, ih, List.map_cons]

theorem step?_canonical (j : Json) (step : Step) :
    j.canonical.step? step = (j.step? step).map canonical := by
  cases j with
  | array items =>
    cases step with
    | item index => simp only [canonical, step?, canonicalItems_eq_map, List.getElem?_map]
    | member => rfl
  | object members =>
    cases step with
    | item => rfl
    | member name =>
      calc (sortMembers (canonicalMembers members)).reverse.lookup name
          = (sortMembers (canonicalMembers members)).lookup name := by
            rw [← lookup_sortMembers, sortMembers_of_ascending (pairwise_sortMembers _)]
        _ = ((object members).member? name).map canonical := lookup_members_canonical members name
  | null | bool _ | number _ | string _ => cases step <;> rfl

/-- Sorting the members keeps what stands at a place. -/
theorem at?_canonical (path : Path) (j : Json) :
    j.canonical.at? path = (j.at? path).map canonical := by
  induction path generalizing j with
  | nil => rfl
  | cons step path ih =>
    rw [at?, at?, step?_canonical, Option.map_bind, Option.bind_map]
    exact congrArg (j.step? step).bind (funext ih)

theorem step?_reread (j : Json) (step : Step) : j.reread.step? step = (j.step? step).map reread := by
  cases step with
  | item index =>
    cases j with
    | array items => simp only [reread, step?, rereadItems_eq, List.getElem?_map]
    | null | bool _ | number _ | string _ | object _ => rfl
  | member name => rw [step?_member, step?_member, member?_reread]

/-- Writing and reading again keeps what stands at a place. -/
theorem at?_reread (path : Path) (j : Json) : j.reread.at? path = (j.at? path).map reread := by
  induction path generalizing j with
  | nil => rfl
  | cons step path ih =>
    rw [at?, at?, step?_reread, Option.map_bind, Option.bind_map]
    exact congrArg (j.step? step).bind (funext ih)

end TopicGateway.Json
