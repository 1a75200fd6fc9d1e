import TopicGateway.Message.Defaults
import TopicGateway.Proofs.Json.Entries
import TopicGateway.Proofs.Json.Meaning
import TopicGateway.Proofs.Json.RoundTrip
import TopicGateway.Proofs.Message.Rereading

/-! Template defaults that a JSON document gives. A document lies over the built-in defaults: what it
has for a setting counts, whatever else stands in it, and what it does not have is built in. A value
of the wrong kind for its setting is never passed over. -/
namespace TopicGateway.Message.Defaults

open Json (Once StandsFor)

inductive Leaf where
  | slippage
  | commission
  | maxPositionSize
  | maxDrawdown
  | version
  | tags
  | frequency
  | fileType
  deriving DecidableEq

namespace Leaf

def sectionName : Leaf → String
  | .slippage | .commission => "execution_settings"
  | .maxPositionSize | .maxDrawdown => "risk_settings"
  | .version | .tags => "strategy"
  | .frequency => "data"
  | .fileType => "file"

def name : Leaf → String
  | .slippage => "slippage"
  | .commission => "commission"
  | .maxPositionSize => "max_position_size"
  | .maxDrawdown => "max_drawdown"
  | .version => "version"
  | .tags => "tags"
  | .frequency => "frequency"
  | .fileType => "file_type"

/-- A number that is this double to the reader. -/
def IsDouble (x : Binary64) (j : Json) : Prop :=
  ∃ n : Json.Number, j = .number n ∧ x = .finite n.toReal

/-- The value is what the defaults have for the setting. -/
def Holds (d : Defaults) : Leaf → Json → Prop
  | .slippage, j => IsDouble d.execution.slippage j
  | .commission, j => IsDouble d.execution.commission j
  | .maxPositionSize, j => IsDouble d.risk.maxPositionSize j
  | .maxDrawdown, j => IsDouble d.risk.maxDrawdown j
  | .version, j => j = .string d.strategy.version
  | .tags, j => j = stringsJson d.strategy.tags
  | .frequency, j => j = .string d.frequency
  | .fileType, j => j = .string d.fileType

/-- The value is of the setting's kind: a number, a text, or a list of nothing but texts. -/
def Fitting : Leaf → Json → Prop
  | .slippage, j | .commission, j | .maxPositionSize, j | .maxDrawdown, j => ∃ n, j = .number n
  | .version, j | .frequency, j | .fileType, j => ∃ s, j = .string s
  | .tags, j => ∃ texts, j = stringsJson texts

end Leaf

/-- These settings as the defaults have them, and the other ones built in. -/
def laidOver (S : Leaf → Bool) (d : Defaults) : Defaults where
  execution := {
    slippage := if S .slippage then d.execution.slippage else builtIn.execution.slippage
    commission := if S .commission then d.execution.commission else builtIn.execution.commission }
  risk := {
    maxPositionSize :=
      if S .maxPositionSize then d.risk.maxPositionSize else builtIn.risk.maxPositionSize
    maxDrawdown := if S .maxDrawdown then d.risk.maxDrawdown else builtIn.risk.maxDrawdown }
  strategy := {
    version := if S .version then d.strategy.version else builtIn.strategy.version
    tags := if S .tags then d.strategy.tags else builtIn.strategy.tags }
  frequency := if S .frequency then d.frequency else builtIn.frequency
  fileType := if S .fileType then d.fileType else builtIn.fileType

/-- The members of a document that has these settings, as the defaults have them, and no other. Each
section and each setting stands there at most once; what else stands there is not looked at. -/
structure Gives (members : List (String × Json)) (S : Leaf → Bool) (d : Defaults) : Prop where
  once : Once (sections.map Section.name) members
  objects : ∀ s ∈ sections, ∀ j, (s.name, j) ∈ members →
    ∃ inner, j = .object inner ∧ Once (s.settings.map Prod.fst) inner
  holds : ∀ (leaf : Leaf) inner j, (leaf.sectionName, .object inner) ∈ members → (leaf.name, j) ∈ inner →
    leaf.Holds d j
  exactly : ∀ leaf : Leaf, S leaf = true ↔
    ∃ inner j, (leaf.sectionName, .object inner) ∈ members ∧ (leaf.name, j) ∈ inner

/-- The value stands for the setting in this document, whose sections are objects or lists. -/
def Leaf.StandsIn (leaf : Leaf) (document j : Json) : Prop :=
  ∃ s ∈ sections, s.name = leaf.sectionName ∧ ∃ inside,
    StandsFor (sections.map Section.name) s.name document inside ∧
    StandsFor (s.settings.map Prod.fst) leaf.name inside j

/-- The text of a value, however deeply it is nested. -/
def TextOf (input : List UInt8) (j : Json) : Prop :=
  ∃ levels, Json.onlyBlankLeft (Json.readValue levels input) = .ok j

def Setting.change? : Setting → Json → Option (Defaults → Defaults)
  | .float put, j => j.number?.map fun n => put (.finite n.toReal)
  | .string put, j => j.string?.map put
  | .strings put, j => j.strings?.map put

def Section.meaning (s : Section) (name : String) (j : Json) : Option (Defaults → Defaults) :=
  (s.settings.lookup name).bind (·.change? j)

def Section.change? (s : Section) : Json → Option (Defaults → Defaults) :=
  Json.recordChange? s.meaning (s.settings.map Prod.fst)

def meaning (name : String) (j : Json) : Option (Defaults → Defaults) :=
  (sections.find? (·.name = name)).bind (·.change? j)

def change? : Json → Option (Defaults → Defaults) :=
  Json.recordChange? meaning (sections.map Section.name)

theorem Setting.means (setting : Setting) (name : String) (depth : Nat) :
    (Json.Field.mk name false setting.read).Means (depth + 1) setting.change? := by
  intro levels input j rest d reads
  cases setting with
  | float put =>
    have settles := (Json.readFloat_settles reads).map fun x => put (.finite x) d
    simpa [Setting.read, Setting.change?, Option.map_map, Function.comp_def] using settles
  | string put =>
    have settles := (Json.readString_settles reads).map fun s => put s d
    simpa [Setting.read, Setting.change?, Option.map_map, Function.comp_def] using settles
  | strings put =>
    have read : Json.Settles (Json.readStrings (depth + 1) input) j.strings? rest :=
      Json.readStrings_settles reads
    simpa [Setting.read, Setting.change?, Option.map_map, Function.comp_def] using
      read.map fun s => put s d

theorem lookup_settings {s : Section} (known : s ∈ sections) {p : String × Setting}
    (member : p ∈ s.settings) : s.settings.lookup p.1 = some p.2 := by
  simp only [sections, List.mem_cons, List.not_mem_nil, or_false] at known
  rcases known with rfl | rfl | rfl | rfl | rfl
  all_goals
    simp only [List.mem_cons, List.not_mem_nil, or_false] at member
    rcases member with rfl | rfl <;> rfl

theorem find?_sections {s : Section} (known : s ∈ sections) :
    sections.find? (·.name = s.name) = some s := by
  simp only [sections, List.mem_cons, List.not_mem_nil, or_false] at known
  rcases known with rfl | rfl | rfl | rfl | rfl <;> rfl

theorem Section.names_record (s : Section) :
    s.record.fields.map Json.Field.name = s.settings.map Prod.fst := by
  simp [Section.record, Function.comp_def]

theorem Section.read_settles {s : Section} (known : s ∈ sections) {depth levels : Nat}
    {input rest : List UInt8} {j : Json} (d : Defaults) (reads : Json.Reads levels input (.value j) rest) :
    Json.Settles (s.record.read (depth + 2) d input) ((s.change? j).map (· d)) rest := by
  have means : ∀ field ∈ s.record.fields, field.Means (depth + 1) (s.meaning field.name) := by
    intro field member
    obtain ⟨⟨name, setting⟩, inside, rfl⟩ := List.mem_map.1 member
    intro levels input j rest d reads
    have found : s.settings.lookup name = some setting :=
      lookup_settings known inside
    simp only [Section.meaning, found, Option.bind_some]
    exact setting.means name depth d reads
  have optional : ∀ field ∈ s.record.fields, field.required = false := by
    intro field member
    obtain ⟨_, _, rfl⟩ := List.mem_map.1 member
    rfl
  rw [Section.change?, ← s.names_record]
  exact Json.Record.read_settles means optional d reads

/-- Every document is read as what it makes of the built-in defaults, or not at all. -/
theorem ofJson_textOf {input : List UInt8} {j : Json} (text : TextOf input j) :
    match change? j with
    | some change => ofJson input = .ok (change builtIn)
    | none => ∃ e, ofJson input = .error e := by
  obtain ⟨levels, read⟩ := text
  obtain ⟨rest, answer, blank⟩ := Json.onlyBlankLeft_eq_ok read
  have means : ∀ field ∈ record.fields, field.Means 126 (meaning field.name) := by
    intro field member
    obtain ⟨s, known, rfl⟩ := List.mem_map.1 member
    intro levels input j rest d reads
    simp only [meaning, find?_sections known, Option.bind_some]
    exact s.read_settles known d reads
  have optional : ∀ field ∈ record.fields, field.required = false := by
    intro field member
    obtain ⟨_, _, rfl⟩ := List.mem_map.1 member
    rfl
  have names : record.fields.map Json.Field.name = sections.map Section.name := by
    simp [record, Function.comp_def]
  have settles := Json.Record.read_settles means optional builtIn (Json.reads_of_readValue answer)
  rw [names] at settles
  rw [change?]
  cases change : Json.recordChange? meaning (sections.map Section.name) j with
  | none =>
    rw [change] at settles
    obtain ⟨e, failed⟩ := settles
    have whole : record.read Json.deepest builtIn input = .error e := failed
    exact ⟨e, by rw [ofJson, Json.Record.readWhole, whole]; rfl⟩
  | some change' =>
    rw [change] at settles
    have whole : record.read Json.deepest builtIn input = .ok (change' builtIn, rest) := settles
    simp only [ofJson, Json.Record.readWhole, whole, Json.onlyBlankLeft, blank]

theorem strings?_stringsJson (texts : List String) : (stringsJson texts).strings? = some texts := by
  rw [stringsJson, Json.strings?]
  induction texts with
  | nil => rfl
  | cons s texts ih =>
    rw [List.map_cons, Json.itemStrings?, ih]
    rfl

theorem map_itemStrings? {items : List Json} {texts : List String}
    (read : Json.itemStrings? items = some texts) : items = texts.map .string := by
  induction items generalizing texts with
  | nil =>
    cases read
    rfl
  | cons j items ih =>
    rw [Json.itemStrings?] at read
    cases j with
    | string s =>
      cases others : Json.itemStrings? items with
      | none =>
        rw [others] at read
        cases read
      | some texts' =>
        rw [others] at read
        cases read
        rw [ih others]
        rfl
    | null | bool _ | number _ | array _ | object _ => cases read

theorem eq_stringsJson {j : Json} {texts : List String} (read : j.strings? = some texts) :
    j = stringsJson texts := by
  cases j with
  | array items => rw [map_itemStrings? read, stringsJson]
  | null | bool _ | number _ | string _ | object _ => cases read

variable {s : Section} {leaf : Leaf} {d : Defaults} {j : Json}

theorem exists_leaf (known : s ∈ sections) {name : String} (named : name ∈ s.settings.map Prod.fst) :
    ∃ leaf : Leaf, leaf.sectionName = s.name ∧ leaf.name = name := by
  simp only [sections, List.mem_cons, List.not_mem_nil, or_false] at known
  rcases known with rfl | rfl | rfl | rfl | rfl
  all_goals simp only [List.map_cons, List.map_nil, List.mem_cons, List.not_mem_nil, or_false] at named
  · rcases named with rfl | rfl
    · exact ⟨.slippage, rfl, rfl⟩
    · exact ⟨.commission, rfl, rfl⟩
  · rcases named with rfl | rfl
    · exact ⟨.maxPositionSize, rfl, rfl⟩
    · exact ⟨.maxDrawdown, rfl, rfl⟩
  · rcases named with rfl | rfl
    · exact ⟨.version, rfl, rfl⟩
    · exact ⟨.tags, rfl, rfl⟩
  · exact ⟨.frequency, rfl, named.symm⟩
  · exact ⟨.fileType, rfl, named.symm⟩

theorem Leaf.name_injective {a b : Leaf} (same : a.name = b.name) : a = b := by
  cases a <;> cases b <;> first | rfl | exact absurd same (by decide)

theorem exists_section (leaf : Leaf) :
    ∃ s ∈ sections, s.name = leaf.sectionName ∧ leaf.name ∈ s.settings.map Prod.fst := by
  cases leaf
  all_goals
    simp only [sections, List.mem_cons, List.not_mem_nil, or_false, exists_eq_or_imp, exists_eq_left]
    simp [Leaf.sectionName, Leaf.name]

theorem section_unique {t : Section} (known : s ∈ sections) (known' : t ∈ sections)
    (same : s.name = t.name) : s = t := by
  have found := find?_sections known
  rw [same, find?_sections known'] at found
  exact (Option.some.inj found).symm

theorem name_mem_settings (known : s ∈ sections) (place : leaf.sectionName = s.name) :
    leaf.name ∈ s.settings.map Prod.fst := by
  obtain ⟨t, known', named, member⟩ := exists_section leaf
  obtain rfl := section_unique known known' (place.symm.trans named.symm)
  exact member

theorem meaning_holds (known : s ∈ sections) (place : leaf.sectionName = s.name)
    (holds : leaf.Holds d j) : ∃ change, s.meaning leaf.name j = some change ∧
      ∀ S, change (laidOver S d) = laidOver (fun other => S other || other == leaf) d := by
  have found := find?_sections known
  rw [← place] at found
  cases leaf with
  | slippage | commission | maxPositionSize | maxDrawdown =>
    obtain rfl := Option.some.inj found
    obtain ⟨n, rfl, value⟩ := holds
    refine ⟨_, rfl, fun S => ?_⟩
    simp [laidOver, value]
  | version | frequency | fileType =>
    obtain rfl := Option.some.inj found
    cases holds
    refine ⟨_, rfl, fun S => ?_⟩
    simp [laidOver]
  | tags =>
    obtain rfl := Option.some.inj found
    cases holds
    refine ⟨_, congrArg (Option.map _) (strings?_stringsJson _), fun S => ?_⟩
    simp [laidOver]

theorem meaning_eq_none (known : s ∈ sections) (place : leaf.sectionName = s.name)
    (other : ¬leaf.Fitting j) : s.meaning leaf.name j = none := by
  have found := find?_sections known
  rw [← place] at found
  cases leaf with
  | slippage | commission | maxPositionSize | maxDrawdown =>
    obtain rfl := Option.some.inj found
    cases j with
    | number n => exact absurd ⟨n, rfl⟩ other
    | null | bool _ | string _ | array _ | object _ => rfl
  | version | frequency | fileType =>
    obtain rfl := Option.some.inj found
    cases j with
    | string s => exact absurd ⟨s, rfl⟩ other
    | null | bool _ | number _ | array _ | object _ => rfl
  | tags =>
    obtain rfl := Option.some.inj found
    have unread : j.strings? = none := by
      apply Option.eq_none_iff_forall_not_mem.2
      intro texts read
      exact other ⟨texts, eq_stringsJson read⟩
    exact congrArg (Option.map _) unread

/-- The setting stands among these members of a section. -/
def shown (s : Section) (inner : List (String × Json)) (leaf : Leaf) : Bool :=
  decide (leaf.sectionName = s.name ∧ leaf.name ∈ inner.map Prod.fst)

theorem shown_append (s : Section) (inner : List (String × Json)) (m : String × Json) (leaf : Leaf) :
    shown s (inner ++ [m]) leaf =
      (shown s inner leaf || decide (leaf.sectionName = s.name ∧ leaf.name = m.1)) := by
  apply Bool.eq_iff_iff.2
  simp [shown, and_or_left]

/-- A section changes the settings it holds to those of the defaults, and leaves the others. -/
theorem section_change? (known : s ∈ sections) {inner : List (String × Json)}
    (once : Once (s.settings.map Prod.fst) inner)
    (holds : ∀ (leaf : Leaf) j, leaf.sectionName = s.name → (leaf.name, j) ∈ inner → leaf.Holds d j) :
    ∃ change, s.change? (.object inner) = some change ∧
      ∀ S, change (laidOver S d) = laidOver (fun leaf => S leaf || shown s inner leaf) d := by
  have given (S : Leaf → Bool) : ∀ m ∈ inner, m.1 ∈ s.settings.map Prod.fst → ∃ change,
      s.meaning m.1 m.2 = some change ∧ ∀ before record,
        record = laidOver (fun leaf => S leaf || shown s before leaf) d →
        change record = laidOver (fun leaf => S leaf || shown s (before ++ [m]) leaf) d := by
    intro m member named
    obtain ⟨leaf, place, name⟩ := exists_leaf known named
    have value : leaf.Holds d m.2 := holds leaf m.2 place (by rw [name]; exact member)
    obtain ⟨change, meant, changes⟩ := meaning_holds known place value
    rw [name] at meant
    refine ⟨change, meant, fun before record here => ?_⟩
    rw [here, changes]
    congr 1
    funext other
    have single : (other == leaf) = decide (other.sectionName = s.name ∧ other.name = m.1) := by
      by_cases same : other = leaf
      · simp [same, place, name]
      · have different : other.name ≠ m.1 := fun equal =>
          same (Leaf.name_injective (equal.trans name.symm))
        simp [same, different]
    rw [shown_append, single, Bool.or_assoc]
  have passed (S : Leaf → Bool) : ∀ m ∈ inner, m.1 ∉ s.settings.map Prod.fst → ∀ before record,
      record = laidOver (fun leaf => S leaf || shown s before leaf) d →
      record = laidOver (fun leaf => S leaf || shown s (before ++ [m]) leaf) d := by
    intro m _ unknown before record here
    rw [here]
    congr 1
    funext other
    have none : decide (other.sectionName = s.name ∧ other.name = m.1) = false := by
      apply decide_eq_false
      rintro ⟨place, name⟩
      exact unknown (name ▸ name_mem_settings known place)
    rw [shown_append, none, Bool.or_false]
  have whole (S : Leaf → Bool) : ∃ change, s.change? (.object inner) = some change ∧
      change (laidOver S d) = laidOver (fun leaf => S leaf || shown s inner leaf) d := by
    obtain ⟨change, changed, after⟩ := Json.membersChange?_after once (fun _ _ _ => List.not_mem_nil)
      (given S) (passed S)
    exact ⟨change, changed, after [] _ (by simp [shown])⟩
  obtain ⟨change, changed, _⟩ := whole fun _ => false
  refine ⟨change, changed, fun S => ?_⟩
  obtain ⟨same, changed', after⟩ := whole S
  cases changed.symm.trans changed'
  exact after

def Leaf.shownIn (leaf : Leaf) : String × Json → Bool
  | (name, .object inner) => decide (leaf.sectionName = name ∧ leaf.name ∈ inner.map Prod.fst)
  | _ => false

theorem any_shownIn_iff {members : List (String × Json)} : members.any leaf.shownIn = true ↔
    ∃ inner j, (leaf.sectionName, .object inner) ∈ members ∧ (leaf.name, j) ∈ inner := by
  rw [List.any_eq_true]
  constructor
  · rintro ⟨⟨name, value⟩, member, here⟩
    cases value with
    | object inner =>
      obtain ⟨rfl, named⟩ := of_decide_eq_true here
      obtain ⟨⟨_, j⟩, inside, rfl⟩ := List.mem_map.1 named
      exact ⟨inner, j, member, inside⟩
    | null | bool _ | number _ | string _ | array _ => cases here
  · rintro ⟨inner, j, member, inside⟩
    exact ⟨_, member, decide_eq_true ⟨rfl, List.mem_map_of_mem inside⟩⟩

theorem shownIn_eq_false {m : String × Json} (unknown : m.1 ∉ sections.map Section.name)
    (leaf : Leaf) : leaf.shownIn m = false := by
  obtain ⟨name, value⟩ := m
  cases value with
  | object inner =>
    apply decide_eq_false
    rintro ⟨rfl, _⟩
    obtain ⟨s, known, named, _⟩ := exists_section leaf
    exact unknown (named ▸ List.mem_map_of_mem known)
  | null | bool _ | number _ | string _ | array _ => rfl

theorem laidOver_none (d : Defaults) : laidOver (fun _ => false) d = builtIn := by
  simp [laidOver]

/-- A document that has some settings of the defaults lays them over the built-in ones. -/
theorem change?_of_gives {members : List (String × Json)} {S : Leaf → Bool}
    (gives : Gives members S d) :
    ∃ change, change? (.object members) = some change ∧ change builtIn = laidOver S d := by
  have given : ∀ m ∈ members, m.1 ∈ sections.map Section.name → ∃ change,
      meaning m.1 m.2 = some change ∧ ∀ before record,
        record = laidOver (fun leaf => before.any leaf.shownIn) d →
        change record = laidOver (fun leaf => (before ++ [m]).any leaf.shownIn) d := by
    intro m member named
    obtain ⟨name, j⟩ := m
    obtain ⟨s, known, rfl⟩ := List.mem_map.1 named
    obtain ⟨inner, rfl, once⟩ := gives.objects s known j member
    obtain ⟨change, changed, changes⟩ := section_change? (d := d) known once
      fun leaf k place inside => gives.holds leaf inner k (place ▸ member) inside
    refine ⟨change, ?_, fun before record here => ?_⟩
    · simp only [meaning, find?_sections known, Option.bind_some, changed]
    · rw [here, changes]
      congr 1
      funext leaf
      simp [shown, Leaf.shownIn]
  have passed : ∀ m ∈ members, m.1 ∉ sections.map Section.name → ∀ before record,
      record = laidOver (fun leaf => before.any leaf.shownIn) d →
      record = laidOver (fun leaf => (before ++ [m]).any leaf.shownIn) d := by
    intro m _ unknown before record here
    rw [here]
    congr 1
    funext leaf
    simp [shownIn_eq_false unknown leaf]
  obtain ⟨change, changed, after⟩ := Json.membersChange?_after gives.once
    (fun _ _ _ => List.not_mem_nil) given passed
  refine ⟨change, changed, (after [] _ (laidOver_none d).symm).trans ?_⟩
  congr 1
  funext leaf
  exact Bool.eq_iff_iff.2 (any_shownIn_iff.trans (gives.exactly leaf).symm)

theorem change?_of_unfitting {document : Json} (stands : leaf.StandsIn document j)
    (other : ¬leaf.Fitting j) : change? document = none := by
  obtain ⟨s, known, place, inside, outer, inner⟩ := stands
  have refused : s.change? inside = none := Json.recordChange?_eq_none inner
    (name_mem_settings known place.symm) (meaning_eq_none known place.symm other)
  refine Json.recordChange?_eq_none outer (List.mem_map_of_mem known) ?_
  simp only [meaning, find?_sections known, Option.bind_some, refused]

theorem depth_json (d : Defaults) : d.json.depth ≤ Json.deepest := by
  have depth : d.json.depth = 3 := by
    simp only [json, executionJson, riskJson, Json.depth, Json.depthMembers, depth_floatJson,
      depth_stringsJson]
    rfl
  rw [depth]
  decide

theorem isDouble_floatJson {x : Binary64} (finite : x.Finite) : Leaf.IsDouble x (floatJson x) := by
  obtain ⟨r, rfl⟩ := finite
  exact ⟨.real r, rfl, rfl⟩

/-- The written defaults have every setting. -/
theorem gives_json (finite : d.Finite) : ∃ members, d.json = .object members ∧
    Gives members (fun _ => true) d := by
  refine ⟨_, rfl, ⟨.of_nodup (by simp), ?_, ?_, ?_⟩⟩
  · intro s known j member
    simp only [sections, List.mem_cons, List.not_mem_nil, or_false] at known
    rcases known with rfl | rfl | rfl | rfl | rfl
    all_goals
      simp [executionJson, riskJson] at member
      exact ⟨_, member, .of_nodup (by simp)⟩
  · intro leaf inner j member inside
    cases leaf
    all_goals
      simp [Leaf.sectionName, Leaf.name, executionJson, riskJson] at member inside
      subst member
      simp at inside
      subst inside
    · exact isDouble_floatJson finite.slippage
    · exact isDouble_floatJson finite.commission
    · exact isDouble_floatJson finite.maxPositionSize
    · exact isDouble_floatJson finite.maxDrawdown
    all_goals rfl
  · intro leaf
    simp only [true_iff]
    cases leaf
    all_goals
      simp [Leaf.sectionName, Leaf.name, executionJson, riskJson]

theorem laidOver_all (d : Defaults) : laidOver (fun _ => true) d = d := by
  simp [laidOver]

/-- The defaults with their doubles as they are read where they are written. -/
def reread (d : Defaults) : Defaults :=
  { d with execution := d.execution.reread, risk := d.risk.reread }

theorem json_reread (d : Defaults) : d.json.reread = d.reread.json := by
  simp only [json, executionJson, riskJson, Json.reread, Json.rereadMembers,
    Payload.floatJson_reread, Payload.stringsJson_reread]
  rfl

theorem finite_reread (finite : d.Finite) : d.reread.Finite :=
  ⟨Message.finite_reread finite.slippage, Message.finite_reread finite.commission,
    Message.finite_reread finite.maxPositionSize, Message.finite_reread finite.maxDrawdown⟩

/-- Defaults are as they were where all of their doubles are restored. -/
theorem reread_eq_self_iff (d : Defaults) : d.reread = d ↔ d.json.Restored := by
  rw [← Json.reread_eq_self_iff, json_reread]
  constructor
  · exact congrArg json
  · intro same
    obtain ⟨⟨slippage, commission⟩, ⟨size, drawdown⟩, strategy, frequency, fileType⟩ := d
    simp [reread, json, executionJson, riskJson, ExecutionSettings.reread, RiskSettings.reread]
      at same ⊢
    obtain ⟨⟨slippage, commission⟩, size, drawdown⟩ := same
    exact ⟨⟨Payload.reread_of_floatJson slippage, Payload.reread_of_floatJson commission⟩,
      Payload.reread_of_floatJson size, Payload.reread_of_floatJson drawdown⟩

/-- A JSON text that has some settings as these defaults have them is read as the built-in defaults
with those settings laid over them, in whatever order and beside whatever else they stand. The text
of defaults with finite doubles is read as these defaults with the doubles that are read of theirs,
so as the same ones just where every double is restored. A text in which a value of the wrong kind
stands for any setting is refused. -/
theorem settings_over_built_in (d : Defaults) :
    (∀ (S : Leaf → Bool) input members, TextOf input (.object members) → Gives members S d →
      ofJson input = .ok (laidOver S d)) ∧
    (d.Finite → ofJson d.json.bytes = .ok d.reread ∧
      (ofJson d.json.bytes = .ok d ↔ d.json.Restored)) ∧
    ∀ input document (leaf : Leaf) j, TextOf input document → leaf.StandsIn document j →
      ¬leaf.Fitting j → ∃ failure, ofJson input = .error failure := by
  have given (d : Defaults) (S : Leaf → Bool) (input members)
      (text : TextOf input (.object members)) (gives : Gives members S d) :
      ofJson input = .ok (laidOver S d) := by
    obtain ⟨change, changed, whole⟩ := change?_of_gives gives
    have read := ofJson_textOf text
    rw [changed] at read
    rw [← whole]
    exact read
  refine ⟨given d, fun finite => ?_, fun input document leaf j text stands other => ?_⟩
  · obtain ⟨members, written, gives⟩ := gives_json (finite_reread finite)
    have read : Json.read d.json.bytes = .ok d.reread.json := by
      rw [Json.read_bytes d.depth_json, json_reread]
    have whole : ofJson d.json.bytes = .ok d.reread := by
      rw [given _ _ _ members ⟨Json.deepest, read.trans (congrArg _ written)⟩ gives, laidOver_all]
    refine ⟨whole, ?_⟩
    rw [whole, Except.ok.injEq, reread_eq_self_iff]
  · have read := ofJson_textOf text
    rw [change?_of_unfitting stands other] at read
    exact read

/-- A slippage whose text is read as a neighbour of it. -/
theorem slippage_read_as_neighbour :
    let d := { builtIn with execution.slippage := .ofDecimal false 49999999999999996 (-18) }
    let neighbour := { d with execution.slippage := .ofDecimal false 5 (-2) }
    d.Finite ∧ ofJson d.json.bytes = .ok neighbour ∧ neighbour ≠ d := by
  intro d neighbour
  refine ⟨⟨?_, ?_, ?_, ?_⟩, ?_, ?_⟩
  all_goals decide +kernel

def liveTrading : Defaults :=
  { builtIn with
    execution.slippage := .finite (Json.Number.ofNat 2 (by decide)).toReal
    strategy.tags := ["live"] }

/-- The members of a document with these two settings, and with others that are no settings. -/
def liveMembers : List (String × Json) := [
  ("note", .null),
  ("strategy", .object [("tags", .array [.string "live"]), ("slippage", .bool true)]),
  ("data", .object []),
  ("execution_settings", .object [("slippage", .number (.ofNat 2 (by decide)))])]

theorem gives_liveMembers :
    Gives liveMembers (fun leaf => leaf = .slippage ∨ leaf = .tags) liveTrading := by
  refine ⟨.of_nodup (by simp [liveMembers]), ?_, ?_, ?_⟩
  · intro s known j member
    simp only [sections, List.mem_cons, List.not_mem_nil, or_false] at known
    rcases known with rfl | rfl | rfl | rfl | rfl
    all_goals simp [liveMembers] at member
    all_goals exact ⟨_, member, .of_nodup (by simp)⟩
  · intro leaf inner j member inside
    cases leaf
    all_goals simp [Leaf.sectionName, Leaf.name, liveMembers] at member inside
    all_goals subst member
    all_goals simp at inside
    all_goals subst inside
    · exact ⟨_, rfl, rfl⟩
    · rfl
  · intro leaf
    cases leaf
    all_goals simp [Leaf.sectionName, Leaf.name, liveMembers]

/-- The document is read with its two settings and all others built in. A list of tags in which `null`
stands is refused. -/
theorem live_trading_over_built_in :
    ofJson (Text.Utf8.encode ("\x7b\"note\":null, \"strategy\":\x7b\"tags\":[\"live\"], " ++
      "\"slippage\":true\x7d, \"data\":\x7b\x7d, \"execution_settings\":\x7b\"slippage\": 2\x7d\x7d")) =
      .ok liveTrading ∧
    ofJson builtIn.json.bytes = .ok builtIn ∧
    ∃ failure, ofJson (Text.Utf8.encode "\x7b\"strategy\":\x7b\"tags\":[\"live\",null]\x7d\x7d") =
      .error failure := by
  obtain ⟨lies, _, _⟩ := settings_over_built_in liveTrading
  obtain ⟨_, written, refuses⟩ := settings_over_built_in builtIn
  refine ⟨?_, (written finite_builtIn).2.2 (by decide +kernel), ?_⟩
  · refine (lies _ _ liveMembers ⟨3, by decide +kernel⟩ gives_liveMembers).trans ?_
    simp [laidOver, liveTrading]
  · have stands : Leaf.tags.StandsIn
        (.object [("strategy", .object [("tags", .array [.string "live", .null])])])
        (.array [.string "live", .null]) := by
      refine ⟨_, .tail _ (.tail _ (.head _)), rfl, _, .inl ⟨_, rfl, .head _⟩, .inl ⟨_, rfl, .head _⟩⟩
    refine refuses _ _ .tags _ ⟨3, by decide +kernel⟩ stands ?_
    rintro ⟨texts, same⟩
    have read := strings?_stringsJson texts
    rw [← same] at read
    cases read

end TopicGateway.Message.Defaults
