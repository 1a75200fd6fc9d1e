import Mathlib.Data.List.Forall2
import TopicGateway.Proofs.Yaml.Flow
import TopicGateway.Yaml.Document

/-! The nodes of a written value. One step of the reader gives one event; a value's tokens give the
events of its scalars and of the beginnings and ends of its collections, and leave the reader at the
place that was to follow the value. Only these events become nodes, and each becomes one. -/
namespace TopicGateway

namespace Yaml

/-- The node that a token brings, if it brings one. -/
def Lexeme.node? : Lexeme → Option Node
  | .scalar text style => some (.scalar ⟨text, style, none⟩)
  | .flowSequenceStart => some .sequenceStart
  | .flowSequenceEnd => some .sequenceEnd
  | .flowMappingStart => some .mappingStart
  | .flowMappingEnd => some .mappingEnd
  | _ => none

/-- The event adds the node to a document. -/
inductive Shows : Event → Node → Prop where
  | scalar (s : Scalar) : Shows (.scalar none s) (.scalar s)
  | sequenceStart : Shows (.sequenceStart none) .sequenceStart
  | sequenceEnd : Shows .sequenceEnd .sequenceEnd
  | mappingStart : Shows (.mappingStart none) .mappingStart
  | mappingEnd : Shows .mappingEnd .mappingEnd

def Show (events : List Located) (nodes : List Node) : Prop :=
  List.Forall₂ (fun e n => Shows e.event n) events nodes

theorem ofEvents_of_shows {e : Located} {n : Node} (shows : Shows e.event n) (fault : Option Fault)
    (d : Draft) (events : List Located) : Document.ofEvents fault d (e :: events) =
      Document.ofEvents fault { d with nodes := (n, e.mark) :: d.nodes } events := by
  obtain ⟨event, mark⟩ := e
  cases shows <;> rfl

theorem ofEvents_append {events : List Located} {nodes : List Node} (show_ : Show events nodes)
    (fault : Option Fault) (d : Draft) (more : List Located) : ∃ placed : List Placed,
    placed.map Prod.fst = nodes ∧ Document.ofEvents fault d (events ++ more) =
      Document.ofEvents fault { d with nodes := placed.reverse ++ d.nodes } more := by
  induction show_ generalizing d with
  | nil => exact ⟨[], rfl, rfl⟩
  | @cons e n events nodes first _ ih =>
    obtain ⟨placed, same, later⟩ := ih { d with nodes := (n, e.mark) :: d.nodes }
    refine ⟨(n, e.mark) :: placed, by rw [List.map_cons, same], ?_⟩
    rw [List.cons_append, ofEvents_of_shows first, later]
    simp

theorem badOffset?_eq_none {cs : List Char} (allowed : ∀ c ∈ cs, Document.isAllowed c = true)
    (offset : Nat) : Document.badOffset? offset cs = none := by
  induction cs generalizing offset with
  | nil => rfl
  | cons c cs ih =>
    obtain ⟨first, later⟩ := List.forall_mem_cons.1 allowed
    rw [Document.badOffset?, if_pos first, ih later]

theorem Visible.isAllowed {c : Char} (visible : Visible c) : Document.isAllowed c = true := by
  simp [Document.isAllowed, visible.1, visible.2]

namespace EventReader

/-- These tokens are ahead, and these places come next, the nearest first. -/
structure IsAt (r : EventReader) (ahead : List Lexeme) (place : Place) (returns : List Place) :
    Prop where
  ahead : r.tokens.map Token.lexeme = ahead
  place : r.place = place
  returns : r.returns = returns

/-- Events that show these nodes lead from one place to the other. -/
def Emits (r : EventReader) (nodes : List Node) (ahead : List Lexeme) (place : Place)
    (returns : List Place) : Prop :=
  ∃ r' events, r'.IsAt ahead place returns ∧ Show events nodes ∧ ∀ fuel seen,
    EventStream.within (fuel + nodes.length) seen r =
      EventStream.within fuel (events.reverse ++ seen) r'

/-- The step gives the first of these nodes, and the others follow it. -/
def Begins (step : Next) (nodes : List Node) (ahead : List Lexeme) (place : Place)
    (returns : List Place) : Prop :=
  ∃ e r n others, step = .ok (e, r) ∧ Shows e.event n ∧ nodes = n :: others ∧
    r.Emits others ahead place returns

section

variable {r : EventReader} {l : Lexeme} {ahead after : List Lexeme} {place next : Place}
  {returns outer : List Place} {nodes more : List Node}

theorem IsAt.emits (here : r.IsAt ahead place returns) : r.Emits [] ahead place returns :=
  ⟨r, [], here, List.Forall₂.nil, fun _ _ => rfl⟩

theorem Emits.trans (first : r.Emits nodes ahead place returns)
    (rest : ∀ {r' : EventReader}, r'.IsAt ahead place returns → r'.Emits more after next outer) :
    r.Emits (nodes ++ more) after next outer := by
  obtain ⟨r₁, events₁, middle, show₁, run₁⟩ := first
  obtain ⟨r₂, events₂, final, show₂, run₂⟩ := rest middle
  refine ⟨r₂, events₁ ++ events₂, final, List.rel_append show₁ show₂, fun fuel seen => ?_⟩
  rw [List.length_append, Nat.add_comm nodes.length, ← Nat.add_assoc, run₁, run₂]
  simp

theorem Begins.trans {step : Next} (first : Begins step nodes ahead place returns)
    (rest : ∀ {r' : EventReader}, r'.IsAt ahead place returns → r'.Emits more after next outer) :
    Begins step (nodes ++ more) after next outer := by
  obtain ⟨e, r, n, others, step, shows, rfl, emits⟩ := first
  exact ⟨e, r, n, others ++ more, step, shows, rfl, emits.trans rest⟩

theorem Begins.emits (begins : Begins r.next nodes ahead place returns) :
    r.Emits nodes ahead place returns := by
  obtain ⟨e, r₁, n, others, step, shows, rfl, r₂, events, there, show_, run⟩ := begins
  refine ⟨r₂, e :: events, there, List.Forall₂.cons shows show_, fun fuel seen => ?_⟩
  rw [List.length_cons, ← Nat.add_assoc, EventStream.within, step]
  simp only
  rw [run]
  simp

/-- A step that gives a single node. -/
theorem Begins.single {step : Next} {e : Located} {n : Node} (eq : step = .ok (e, r))
    (shows : Shows e.event n) (there : r.IsAt ahead place returns) :
    Begins step [n] ahead place returns :=
  ⟨e, r, n, [], eq, shows, rfl, there.emits⟩

theorem IsAt.peek (here : r.IsAt (l :: ahead) place returns) :
    ∃ t, r.peek = .ok t ∧ t.lexeme = l := by
  obtain ⟨t, ts, tokens, sign, _⟩ := List.map_eq_cons_iff.1 here.ahead
  exact ⟨t, by rw [EventReader.peek, tokens], sign⟩

theorem IsAt.skip (here : r.IsAt (l :: ahead) place returns) : r.skip.IsAt ahead place returns :=
  { here with ahead := by rw [EventReader.skip, List.map_drop, here.ahead]; rfl }

theorem IsAt.goto (here : r.IsAt ahead place returns) (next : Place) :
    (r.goto next).IsAt ahead next returns :=
  { here with place := rfl }

theorem IsAt.returnTo (here : r.IsAt ahead place returns) (next : Place) :
    (r.returnTo next).IsAt ahead place (next :: returns) :=
  { here with returns := congrArg (next :: ·) here.returns }

theorem IsAt.back (here : r.IsAt ahead place (next :: returns)) :
    r.back.IsAt ahead next returns := by
  have shape : r.back = { r with place := next, returns := returns } := by
    rw [EventReader.back, here.returns]
  rw [shape]
  exact ⟨here.ahead, rfl, rfl⟩

theorem IsAt.leave (here : r.IsAt (l :: ahead) place (next :: returns)) :
    r.leave.IsAt ahead next returns :=
  have there := here.skip.back
  ⟨there.ahead, there.place, there.returns⟩

theorem IsAt.enter (here : r.IsAt (l :: ahead) place returns) (start : Mark) :
    (r.enter start).IsAt ahead place returns :=
  have there := here.skip
  ⟨there.ahead, there.place, there.returns⟩

inductive StartsNode : Lexeme → Prop where
  | scalar (text : String) (style : ScalarStyle) : StartsNode (.scalar text style)
  | sequence : StartsNode .flowSequenceStart
  | mapping : StartsNode .flowMappingStart

theorem IsAt.scalar {text : String} {style : ScalarStyle} {block indentless : Bool}
    (here : r.IsAt (.scalar text style :: ahead) place (next :: returns)) :
    Begins (r.node block indentless) [.scalar ⟨text, style, none⟩] ahead next returns := by
  obtain ⟨t, peeked, sign⟩ := here.peek
  refine .single (e := ⟨.scalar none ⟨text, style, none⟩, t.start⟩) ?_ (.scalar _) here.back.skip
  simp [EventReader.node, features, resolveTag, scalarEvent, peeked, sign, bind, Except.bind, pure,
    Except.pure]

/-- The beginning of a collection, in which `read` is the first step. -/
theorem IsAt.opens {step : Next} {e : Event} {n : Node} {first : Place} {read : EventReader → Next}
    (here : r.IsAt (l :: ahead) place returns) (shows : Shows e n)
    (opened : ∀ t, r.peek = .ok t → t.lexeme = l → step = .ok (⟨e, t.start⟩, r.goto first))
    (begun : ∀ r' : EventReader, r'.place = first → r'.next = r'.entered true read)
    (inside : ∀ {r' : EventReader}, r'.IsAt ahead first returns →
      Begins (read r') nodes after next outer) :
    Begins step (n :: nodes) after next outer := by
  obtain ⟨t, peeked, sign⟩ := here.peek
  have there := here.goto first
  have peeked' : (r.goto first).peek = .ok t := peeked
  have entered : (r.goto first).next = read ((r.goto first).enter t.start) := by
    rw [begun _ there.place]
    simp [EventReader.entered, peeked', bind, Except.bind]
  refine ⟨⟨e, t.start⟩, r.goto first, n, nodes, opened t peeked sign, shows, rfl, Begins.emits ?_⟩
  rw [entered]
  exact inside (there.enter t.start)

theorem IsAt.sequence {block indentless : Bool}
    (here : r.IsAt (.flowSequenceStart :: ahead) place returns)
    (inside : ∀ {r' : EventReader}, r'.IsAt ahead (.flowSequence true) returns →
      Begins (r'.flowSequence true) nodes after next outer) :
    Begins (r.node block indentless) (.sequenceStart :: nodes) after next outer := by
  refine here.opens .sequenceStart (fun t peeked sign => ?_) (fun r' there => ?_) inside
  · simp [EventReader.node, features, resolveTag, peeked, sign, bind, Except.bind, pure, Except.pure]
  · rw [EventReader.next, there]

theorem IsAt.mapping {block indentless : Bool}
    (here : r.IsAt (.flowMappingStart :: ahead) place returns)
    (inside : ∀ {r' : EventReader}, r'.IsAt ahead (.flowMappingKey true) returns →
      Begins (r'.flowMappingKey true) nodes after next outer) :
    Begins (r.node block indentless) (.mappingStart :: nodes) after next outer := by
  refine here.opens .mappingStart (fun t peeked sign => ?_) (fun r' there => ?_) inside
  · simp [EventReader.node, features, resolveTag, peeked, sign, bind, Except.bind, pure, Except.pure]
  · rw [EventReader.next, there]

open Json (entrySign)

/-- Past the comma in front of an entry that is not the first. -/
theorem IsAt.flowComma {isFirst : Bool}
    (here : r.IsAt (entrySign isFirst ++ l :: ahead) place returns) (activity : Activity)
    (problem : Problem) :
    ∃ r', r.flowComma isFirst activity problem = .ok r' ∧ r'.IsAt (l :: ahead) place returns := by
  cases isFirst with
  | true => exact ⟨r, rfl, here⟩
  | false =>
    obtain ⟨t, peeked, sign⟩ := IsAt.peek (l := .flowEntry) here
    refine ⟨r.skip, ?_, IsAt.skip (l := .flowEntry) here⟩
    simp [EventReader.flowComma, peeked, sign, bind, Except.bind, pure, Except.pure]

theorem IsAt.peek_entry {isFirst : Bool}
    (here : r.IsAt (entrySign isFirst ++ l :: ahead) place returns) :
    ∃ t, r.peek = .ok t ∧ (t.lexeme = .flowEntry ∨ t.lexeme = l) := by
  cases isFirst with
  | true =>
    obtain ⟨t, peeked, sign⟩ := IsAt.peek (l := l) here
    exact ⟨t, peeked, .inr sign⟩
  | false =>
    obtain ⟨t, peeked, sign⟩ := IsAt.peek (l := .flowEntry) here
    exact ⟨t, peeked, .inl sign⟩

theorem IsAt.flowSequence_item {isFirst : Bool} (starts : StartsNode l)
    (here : r.IsAt (entrySign isFirst ++ l :: ahead) place returns) :
    ∃ r' : EventReader, r'.IsAt (l :: ahead) place returns ∧
      r.flowSequence isFirst = r'.nodeThen (.flowSequence false) false false := by
  obtain ⟨t, peeked, sign⟩ := here.peek_entry
  obtain ⟨r', passed, there⟩ := here.flowComma .flowSequence .noCommaOrBracket
  obtain ⟨u, peeked', sign'⟩ := there.peek
  have more : t.lexeme ≠ .flowSequenceEnd := by
    rcases sign with sign | sign <;> rw [sign] <;> cases starts <;> nofun
  refine ⟨r', there, ?_⟩
  cases starts <;>
    simp [EventReader.flowSequence, peeked, more, passed, peeked', sign', bind, Except.bind]

theorem IsAt.flowSequence_end {isFirst : Bool}
    (here : r.IsAt (.flowSequenceEnd :: ahead) place (next :: outer)) :
    Begins (r.flowSequence isFirst) [.sequenceEnd] ahead next outer := by
  obtain ⟨t, peeked, sign⟩ := here.peek
  refine .single (e := ⟨.sequenceEnd, t.start⟩) ?_ .sequenceEnd here.leave
  simp [EventReader.flowSequence, peeked, sign, bind, Except.bind, pure, Except.pure]

theorem IsAt.flowMappingKey_member {isFirst : Bool} (starts : StartsNode l)
    (here : r.IsAt (entrySign isFirst ++ .key :: l :: ahead) place returns) :
    ∃ r' : EventReader, r'.IsAt (l :: ahead) place returns ∧
      r.flowMappingKey isFirst = r'.nodeThen (.flowMappingValue false) false false := by
  obtain ⟨t, peeked, sign⟩ := here.peek_entry
  obtain ⟨r', passed, there⟩ := here.flowComma .flowMapping .noCommaOrBrace
  obtain ⟨u, peeked', sign'⟩ := there.peek
  obtain ⟨v, peeked'', sign''⟩ := there.skip.peek
  have more : t.lexeme ≠ .flowMappingEnd := by
    rcases sign with sign | sign <;> rw [sign] <;> nofun
  refine ⟨r'.skip, there.skip, ?_⟩
  cases starts <;>
    simp [EventReader.flowMappingKey, peeked, more, passed, peeked', sign', peeked'', sign'', bind,
      Except.bind]

theorem IsAt.flowMappingKey_end {isFirst : Bool}
    (here : r.IsAt (.flowMappingEnd :: ahead) place (next :: outer)) :
    Begins (r.flowMappingKey isFirst) [.mappingEnd] ahead next outer := by
  obtain ⟨t, peeked, sign⟩ := here.peek
  refine .single (e := ⟨.mappingEnd, t.start⟩) ?_ .mappingEnd here.leave
  simp [EventReader.flowMappingKey, peeked, sign, bind, Except.bind, pure, Except.pure]

theorem IsAt.flowMappingValue (starts : StartsNode l)
    (here : r.IsAt (.value :: l :: ahead) place returns) :
    r.flowMappingValue false = r.skip.nodeThen (.flowMappingKey false) false false := by
  obtain ⟨t, peeked, sign⟩ := here.peek
  obtain ⟨u, peeked', sign'⟩ := here.skip.peek
  cases starts <;>
    simp [EventReader.flowMappingValue, peeked, sign, peeked', sign', bind, Except.bind]

end

end EventReader

end Yaml

open Yaml (Lexeme EventReader Node Place)
open Yaml.EventReader (Begins Emits StartsNode)

namespace Json

def nodes (j : Json) : List Node :=
  j.lexemes.filterMap Lexeme.node?

def memberNodes (m : String × Json) : List Node :=
  .scalar ⟨m.1, .doubleQuoted, none⟩ :: m.2.nodes

theorem filterMap_entrySign (isFirst : Bool) : (entrySign isFirst).filterMap Lexeme.node? = [] := by
  cases isFirst <;> rfl

theorem filterMap_itemLexemes (isFirst : Bool) (items : List Json) :
    (itemLexemes isFirst items).filterMap Lexeme.node? = items.flatMap nodes := by
  induction items generalizing isFirst with
  | nil => rfl
  | cons j items ih =>
    rw [itemLexemes, List.filterMap_append, List.filterMap_append, filterMap_entrySign, ih]
    rfl

theorem filterMap_memberLexemes (isFirst : Bool) (members : List (String × Json)) :
    (memberLexemes isFirst members).filterMap Lexeme.node? = members.flatMap memberNodes := by
  induction members generalizing isFirst with
  | nil => rfl
  | cons m members ih =>
    obtain ⟨name, j⟩ := m
    have inner : (Lexeme.key :: .scalar name .doubleQuoted :: .value ::
        (lexemes j ++ memberLexemes false members)).filterMap Lexeme.node? =
        .scalar ⟨name, .doubleQuoted, none⟩ :: (j.nodes ++ members.flatMap memberNodes) := by
      rw [← ih false]
      exact congrArg _ List.filterMap_append
    rw [memberLexemes, List.filterMap_append, filterMap_entrySign, inner]
    rfl

@[simp]
theorem nodes_array (items : List Json) :
    (array items).nodes = .sequenceStart :: (items.flatMap nodes ++ [.sequenceEnd]) := by
  rw [nodes, lexemes, ← filterMap_itemLexemes true]
  exact congrArg _ List.filterMap_append

@[simp]
theorem nodes_object (members : List (String × Json)) :
    (object members).nodes = .mappingStart :: (members.flatMap memberNodes ++ [.mappingEnd]) := by
  rw [nodes, lexemes, ← filterMap_memberLexemes true]
  exact congrArg _ List.filterMap_append

theorem exists_start (j : Json) : ∃ l ls, j.lexemes = l :: ls ∧ StartsNode l := by
  cases j with
  | null => exact ⟨_, _, rfl, .scalar ..⟩
  | bool b => cases b <;> exact ⟨_, _, rfl, .scalar ..⟩
  | number n => exact ⟨_, _, rfl, .scalar ..⟩
  | string s => exact ⟨_, _, rfl, .scalar ..⟩
  | array items => exact ⟨_, _, rfl, .sequence⟩
  | object members => exact ⟨_, _, rfl, .mapping⟩

mutual

/-- Where a node is expected the value is read, and what was to follow it comes next. -/
theorem begins_node : (j : Json) → ∀ {r : EventReader} {after place next outer block indentless},
    r.IsAt (j.lexemes ++ after) place (next :: outer) →
    Begins (r.node block indentless) j.nodes after next outer
  | .null, _, _, _, _, _, _, _, here => here.scalar
  | .bool true, _, _, _, _, _, _, _, here => here.scalar
  | .bool false, _, _, _, _, _, _, _, here => here.scalar
  | .number _, _, _, _, _, _, _, _, here => here.scalar
  | .string _, _, _, _, _, _, _, _, here => here.scalar
  | .array items, _, _, _, _, _, _, _, here => by
    rw [lexemes, List.cons_append, List.append_assoc] at here
    rw [nodes_array]
    exact here.sequence (begins_items items)
  | .object members, _, _, _, _, _, _, _, here => by
    rw [lexemes, List.cons_append, List.append_assoc] at here
    rw [nodes_object]
    exact here.mapping (begins_members members)

theorem begins_items : (items : List Json) → ∀ {r : EventReader} {after isFirst place next outer},
    r.IsAt (itemLexemes isFirst items ++ ([.flowSequenceEnd] ++ after)) place (next :: outer) →
    Begins (r.flowSequence isFirst) (items.flatMap nodes ++ [.sequenceEnd]) after next outer
  | [], _, _, _, _, _, _, here => here.flowSequence_end
  | j :: items, r, after, isFirst, _, _, _, here => by
    obtain ⟨l, ls, shape, starts⟩ := j.exists_start
    rw [itemLexemes, shape, List.append_assoc, List.append_assoc, List.cons_append] at here
    obtain ⟨r', there, step⟩ := here.flowSequence_item starts
    rw [← List.cons_append, ← shape] at there
    rw [step, List.flatMap_cons, List.append_assoc]
    refine (begins_node j (there.returnTo (.flowSequence false))).trans fun behind => ?_
    refine Begins.emits ?_
    rw [EventReader.next, behind.place]
    exact begins_items items behind

theorem begins_members : (members : List (String × Json)) →
    ∀ {r : EventReader} {after isFirst place next outer},
    r.IsAt (memberLexemes isFirst members ++ ([.flowMappingEnd] ++ after)) place (next :: outer) →
    Begins (r.flowMappingKey isFirst) (members.flatMap memberNodes ++ [.mappingEnd]) after next outer
  | [], _, _, _, _, _, _, here => here.flowMappingKey_end
  | (name, j) :: members, r, after, isFirst, _, _, _, here => by
    obtain ⟨l, ls, shape, starts⟩ := j.exists_start
    rw [memberLexemes, List.append_assoc, List.cons_append, List.cons_append, List.cons_append,
      List.append_assoc] at here
    obtain ⟨r', there, step⟩ := here.flowMappingKey_member (.scalar ..)
    rw [step, List.flatMap_cons, List.append_assoc]
    have key : Begins (r'.nodeThen (.flowMappingValue false) false false)
        [.scalar ⟨name, .doubleQuoted, none⟩] _ _ _ :=
      (there.returnTo (.flowMappingValue false)).scalar
    refine key.trans fun {r₁} named => ?_
    have valued : r₁.next = r₁.skip.nodeThen (.flowMappingKey false) false false := by
      rw [EventReader.next, named.place]
      rw [shape, List.cons_append] at named
      exact named.flowMappingValue starts
    have first : Begins (r₁.skip.nodeThen (.flowMappingKey false) false false) j.nodes _ _ _ :=
      begins_node j (named.skip.returnTo (.flowMappingKey false))
    rw [← valued] at first
    refine first.emits.trans fun behind => Begins.emits ?_
    rw [EventReader.next, behind.place]
    exact begins_members members behind

end

end Json

namespace Yaml.EventReader

variable {r : EventReader} {ahead : List Lexeme} {returns : List Place}

theorem within_of_next {e : Located} {r' : EventReader} (step : r.next = .ok (e, r')) (fuel : Nat)
    (seen : List Located) :
    EventStream.within (fuel + 1) seen r = EventStream.within fuel (e :: seen) r' := by
  rw [EventStream.within, step]

theorem within_of_finished (finished : r.place = .finished) (fuel : Nat) (seen : List Located) :
    EventStream.within fuel seen r = ⟨seen.reverse, none⟩ := by
  cases fuel with
  | zero => rfl
  | succ fuel => rw [EventStream.within, EventReader.next, finished]

theorem IsAt.next_streamStart (here : r.IsAt (.streamStart :: ahead) .streamStart returns) :
    ∃ e r', r.next = .ok (e, r') ∧ e.event = .streamStart ∧
      r'.IsAt ahead (.documentStart true) returns := by
  obtain ⟨t, peeked, _⟩ := here.peek
  refine ⟨⟨.streamStart, t.start⟩, r.skip.goto (.documentStart true), ?_, rfl, here.skip.goto _⟩
  rw [EventReader.next, here.place]
  simp [peeked, bind, Except.bind, pure, Except.pure]

/-- A document without directives and without a sign in front. -/
theorem IsAt.next_documentStart {l : Lexeme} (starts : StartsNode l)
    (here : r.IsAt (l :: ahead) (.documentStart true) returns) :
    ∃ e r', r.next = .ok (e, r') ∧ e.event = .documentStart ∧
      r'.IsAt (l :: ahead) .blockNode (.documentEnd :: returns) := by
  obtain ⟨t, peeked, sign⟩ := here.peek
  obtain ⟨r', directed, there⟩ : ∃ r', r.directives = .ok r' ∧
      r'.IsAt (l :: ahead) (.documentStart true) returns := by
    refine ⟨{ r with handles := r.handles ++ standardHandles }, ?_,
      ⟨here.ahead, here.place, here.returns⟩⟩
    cases starts <;>
      simp [EventReader.directives, EventReader.directivesWithin, peeked, sign, bind, Except.bind,
        pure, Except.pure]
  refine ⟨⟨.documentStart, t.start⟩, _, ?_, rfl, (there.returnTo .documentEnd).goto .blockNode⟩
  rw [EventReader.next, here.place]
  cases starts <;>
    simp [EventReader.documentStart, peeked, sign, directed, bind, Except.bind, pure, Except.pure]

theorem IsAt.next_documentEnd (here : r.IsAt [.streamEnd] .documentEnd returns) :
    ∃ e r', r.next = .ok (e, r') ∧ e.event = .documentEnd ∧
      r'.IsAt [.streamEnd] (.documentStart false) returns := by
  obtain ⟨t, peeked, sign⟩ := here.peek
  refine ⟨⟨.documentEnd, t.start⟩, { r with place := .documentStart false, handles := [] }, ?_, rfl,
    ⟨here.ahead, rfl, here.returns⟩⟩
  rw [EventReader.next, here.place]
  simp [EventReader.documentEnd, peeked, sign, bind, Except.bind, pure, Except.pure]

theorem IsAt.next_streamEnd (here : r.IsAt [.streamEnd] (.documentStart false) returns) :
    ∃ e r', r.next = .ok (e, r') ∧ e.event = .streamEnd ∧ r'.place = .finished := by
  obtain ⟨t, peeked, sign⟩ := here.peek
  have still : r.skipDocumentEnds = r := by
    obtain ⟨u, us, tokens, sign', _⟩ := List.map_eq_cons_iff.1 here.ahead
    have kept : r.tokens.dropWhile (·.lexeme = .documentEnd) = r.tokens := by
      rw [tokens]
      simp [sign']
    rw [EventReader.skipDocumentEnds, kept]
  refine ⟨⟨.streamEnd, t.start⟩, r.skip.goto .finished, ?_, rfl, rfl⟩
  rw [EventReader.next, here.place]
  simp [EventReader.documentStart, still, peeked, sign, bind, Except.bind, pure, Except.pure]

end Yaml.EventReader

namespace Json

theorem length_nodes_le (j : Json) : j.nodes.length ≤ j.lexemes.length :=
  List.length_filterMap_le ..

/-- The document of a value's tokens has the value's nodes, and nothing is wrong with it. -/
theorem document_of_tokens (j : Json) {tokens : List Yaml.Token}
    (shape : tokens.map Yaml.Token.lexeme = .streamStart :: (j.lexemes ++ [.streamEnd])) :
    ∃ placed, placed.map Prod.fst = j.nodes ∧
      Yaml.Document.ofEvents (Yaml.EventStream.ofTokens ⟨tokens, none⟩).fault .empty
        (Yaml.EventStream.ofTokens ⟨tokens, none⟩).events = ⟨placed, none, false⟩ := by
  obtain ⟨l, ls, starting, starts⟩ := j.exists_start
  have here : (EventReader.start ⟨tokens, none⟩).IsAt _ .streamStart [] := ⟨shape, rfl, rfl⟩
  obtain ⟨e₁, r₁, step₁, event₁, there₁⟩ := here.next_streamStart
  rw [starting, List.cons_append] at there₁
  obtain ⟨e₂, r₂, step₂, event₂, there₂⟩ := there₁.next_documentStart starts
  rw [← List.cons_append, ← starting] at there₂
  have node : Begins r₂.next j.nodes [.streamEnd] .documentEnd [] := by
    rw [EventReader.next, there₂.place]
    exact begins_node j there₂
  obtain ⟨r₃, events, there₃, shown, run⟩ := node.emits
  obtain ⟨e₄, r₄, step₄, event₄, there₄⟩ := there₃.next_documentEnd
  obtain ⟨e₅, r₅, step₅, event₅, finished⟩ := there₄.next_streamEnd
  obtain ⟨spare, enough⟩ : ∃ spare,
      4 * tokens.length + 4 = spare + 1 + 1 + j.nodes.length + 1 + 1 := by
    have bound := j.length_nodes_le
    have length := congrArg List.length shape
    simp only [List.length_map, List.length_cons, List.length_append, List.length_nil] at length
    exact ⟨4 * tokens.length - j.nodes.length, by omega⟩
  have whole : Yaml.EventStream.ofTokens ⟨tokens, none⟩ =
      ⟨e₁ :: e₂ :: (events ++ [e₄, e₅]), none⟩ := by
    rw [Yaml.EventStream.ofTokens, enough, EventReader.within_of_next step₁,
      EventReader.within_of_next step₂, run, EventReader.within_of_next step₄,
      EventReader.within_of_next step₅, EventReader.within_of_finished finished]
    simp
  rw [whole]
  obtain ⟨_, m₁⟩ := e₁
  obtain ⟨_, m₂⟩ := e₂
  obtain ⟨_, m₄⟩ := e₄
  obtain ⟨_, m₅⟩ := e₅
  cases event₁
  cases event₂
  cases event₄
  cases event₅
  obtain ⟨placed, same, added⟩ := Yaml.ofEvents_append shown none .empty
    [⟨.documentEnd, m₄⟩, ⟨.streamEnd, m₅⟩]
  refine ⟨placed, same, ?_⟩
  rw [Yaml.Document.ofEvents, Yaml.Document.ofEvents, added, Yaml.Document.ofEvents]
  simp [Yaml.Draft.empty]

/-- The text of an object, with or without a line break at its end, is a document of its nodes. -/
theorem read_object {members : List (String × Json)} (legible : LegibleMembers members)
    {ending : List Char} (ends : ending = [] ∨ ending = ['\n']) : ∃ placed,
    placed.map Prod.fst = (object members).nodes ∧
      Yaml.Document.read (String.ofList ((object members).chars ++ ending)) =
        ⟨placed, none, false⟩ := by
  obtain ⟨tokens, scanned, shape⟩ := ofChars_object legible ends
  obtain ⟨placed, same, document⟩ := document_of_tokens _ shape
  refine ⟨placed, same, ?_⟩
  have allowed : Yaml.Document.badOffset? 0 ((object members).chars ++ ending) = none := by
    apply Yaml.badOffset?_eq_none
    refine List.forall_mem_append.2 ⟨fun c member =>
      (visible_chars (object members) legible c member).isAllowed, ?_⟩
    rcases ends with rfl | rfl
    · exact nofun
    · decide
  rw [Yaml.Document.read, String.toList_ofList, allowed, scanned]
  exact document

end Json

end TopicGateway
