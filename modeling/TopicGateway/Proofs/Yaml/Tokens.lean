import Mathlib.Tactic.Set
import TopicGateway.Proofs.Yaml.Scalars

/-! One turn of the scanner after another, within flow collections that stand on one line. Tokens may
wait at a turn's end or be taken already; what counts is their sequence, and that the token which a
colon would make a key has not been taken (`At`). -/
namespace TopicGateway.Yaml

namespace Scanner

/-- A key that can still have its colon at the mark. -/
def freshKey (m : Mark) (k : Option PendingKey) : Option PendingKey :=
  k.filter fun p => !PendingKey.isStale p m

/-- No scalar or collection that waits for a colon has to have one. -/
def Optional (keys : List (Option PendingKey)) : Prop :=
  ∀ k ∈ keys, ∀ p ∈ k, p.required = false

theorem refresh_of_optional {k : Option PendingKey} (optional : ∀ p ∈ k, p.required = false)
    (m : Mark) : refresh m k = .ok (freshKey m k) := by
  cases k with
  | none => rfl
  | some p =>
    have free := optional p rfl
    cases stale : PendingKey.isStale p m with
    | true => simp [refresh, freshKey, Option.filter_some, stale, free]
    | false => simp [refresh, freshKey, Option.filter_some, stale]

theorem refreshOuter_of_optional {keys : List (Option PendingKey)} (optional : Optional keys)
    (m : Mark) : refreshOuter m keys = .ok (keys.map (freshKey m)) := by
  induction keys with
  | nil => rfl
  | cons k keys ih =>
    obtain ⟨first, later⟩ := List.forall_mem_cons.1 optional
    simp [refreshOuter, ih later, refresh_of_optional first, Except.map]

/-- The scanner without its stale keys. -/
def refreshed (s : Scanner) : Scanner :=
  { s with
    key := freshKey s.cursor.mark s.key, outerKeys := s.outerKeys.map (freshKey s.cursor.mark) }

section

variable {s : Scanner}

theorem dropStale_of_optional (optional : Optional (s.key :: s.outerKeys)) :
    s.dropStale = .ok s.refreshed := by
  obtain ⟨first, later⟩ := List.forall_mem_cons.1 optional
  simp [dropStale, refreshOuter_of_optional later, refresh_of_optional first, Except.map, refreshed]

theorem dropKey_of_optional (optional : Optional (s.key :: s.outerKeys)) :
    s.dropKey = .ok { s with key := none } := by
  obtain ⟨first, _⟩ := List.forall_mem_cons.1 optional
  obtain ⟨_, _, _, _, _, _, key, _, _⟩ := s
  cases key with
  | none => rfl
  | some p => simp [dropKey, first p rfl]

theorem optional_refreshed (optional : Optional (s.key :: s.outerKeys)) :
    Optional (s.refreshed.key :: s.refreshed.outerKeys) := by
  intro k member p inside
  have fresh : k ∈ (s.key :: s.outerKeys).map (freshKey s.cursor.mark) := member
  obtain ⟨before, known, rfl⟩ := List.mem_map.1 fresh
  exact optional before known p ((Option.mem_filter_iff.1 inside).1)

end

/-- The tokens that are taken come first among those that wait, and none behind a pending key is. -/
theorem releaseWithin_eq (fuel : Nat) (taken : List Token) (s : Scanner) :
    ∃ ready left, releaseWithin fuel taken s =
      (taken.reverse ++ ready,
        { s with waiting := left, released := s.released + ready.length }) ∧
      ready ++ left = s.waiting ∧
      ∀ k ∈ s.key, s.released ≤ k.number → s.released + ready.length ≤ k.number := by
  induction fuel generalizing taken s with
  | zero => exact ⟨[], s.waiting, by simp [releaseWithin], rfl, fun k _ => id⟩
  | succ fuel ih =>
    rw [releaseWithin]
    cases waiting : s.waiting with
    | nil =>
      refine ⟨[], [], ?_, rfl, fun k _ => id⟩
      obtain ⟨_, _, _, _, _, _, _, _, _⟩ := s
      cases waiting
      simp
    | cons t ts =>
      by_cases pending : s.isPending s.released = true
      · refine ⟨[], t :: ts, ?_, rfl, fun k _ => id⟩
        obtain ⟨_, _, _, _, _, _, _, _, _⟩ := s
        cases waiting
        simp [pending]
      · obtain ⟨ready, left, released, split, kept⟩ :=
          ih (t :: taken) { s with waiting := ts, released := s.released + 1 }
        refine ⟨t :: ready, left, ?_, congrArg (t :: ·) split, fun k pend before => ?_⟩
        · simp only [pending, Bool.false_eq_true, if_false, released, List.length_cons]
          simp [Nat.add_assoc, Nat.add_comm 1]
        · have other : s.released ≠ k.number := by
            intro same
            apply pending
            rw [isPending, pend]
            simp [same]
          have later := kept k pend (by simp only; omega)
          simp only [List.length_cons] at later ⊢
          omega

end Scanner

structure Stage where
  /-- The lexemes of all tokens so far, those that wait included. -/
  seen : List Lexeme
  rest : List Char
  /-- How many flow collections are open. -/
  depth : Nat
  keyAllowed : Bool
  /-- The number of the token that a colon here would make a key. -/
  key : Option Nat

/-- The scanner has come this far; `taken` are the tokens taken from it, the last one first. -/
structure At (taken : List Token) (s : Scanner) (stage : Stage) : Prop where
  seen : (taken.reverse ++ s.waiting).map Token.lexeme = stage.seen
  released : s.released = taken.length
  rest : s.cursor.rest = stage.rest
  inside : 0 < s.cursor.column
  depth : s.outerKeys.length = stage.depth
  keyAllowed : s.keyAllowed = stage.keyAllowed
  optional : Scanner.Optional (s.key :: s.outerKeys)
  indent : s.indent = -1
  outerIndents : s.outerIndents = []
  running : s.ended = false
  key : ∀ n ∈ stage.key, ∃ k, s.key = some k ∧ k.number = n ∧ s.released ≤ n ∧
    Scanner.PendingKey.isStale k s.cursor.mark = false

/-- Some turns later the scanner has come this far, with a character behind it for each turn. -/
def Reaches (taken : List Token) (s : Scanner) (stage : Stage) : Prop :=
  ∃ taken' s' turns, At taken' s' stage ∧ stage.rest.length + turns ≤ s.cursor.rest.length ∧
    ∀ fuel, TokenStream.within (fuel + turns) taken s = TokenStream.within fuel taken' s'

section

variable {taken : List Token} {s : Scanner} {stage next : Stage}

theorem At.reached (here : At taken s stage) : Reaches taken s stage :=
  ⟨taken, s, 0, here, Nat.le_of_eq (congrArg List.length here.rest.symm), fun _ => rfl⟩

theorem Reaches.trans (first : Reaches taken s stage)
    (more : ∀ {taken' s'}, At taken' s' stage → Reaches taken' s' next) : Reaches taken s next := by
  obtain ⟨taken₁, s₁, turns₁, middle, count₁, run₁⟩ := first
  obtain ⟨taken₂, s₂, turns₂, final, count₂, run₂⟩ := more middle
  rw [middle.rest] at count₂
  refine ⟨taken₂, s₂, turns₂ + turns₁, final, by omega, fun fuel => ?_⟩
  rw [← Nat.add_assoc, run₁, run₂]

theorem At.weaken (here : At taken s stage) : At taken s { stage with key := none } :=
  { here with key := nofun }

theorem At.refreshed (here : At taken s stage) : At taken s.refreshed stage :=
  { here with
    depth := (List.length_map _).trans here.depth
    optional := Scanner.optional_refreshed here.optional
    key := by
      intro n pending
      obtain ⟨k, key, number, waits, fresh⟩ := here.key n pending
      exact ⟨k, by simp [Scanner.refreshed, Scanner.freshKey, key, fresh], number, waits, fresh⟩ }

theorem At.release (here : At taken s stage) : ∃ ready s', s.release = (ready, s') ∧
    At (ready.reverse ++ taken) s' stage := by
  obtain ⟨ready, left, released, split, kept⟩ := Scanner.releaseWithin_eq s.waiting.length [] s
  refine ⟨ready, _, released, { here with seen := ?_, released := ?_, key := ?_ }⟩
  · rw [← here.seen, ← split]
    simp
  · simp [here.released, Nat.add_comm]
  · intro n pending
    obtain ⟨k, key, number, waits, fresh⟩ := here.key n pending
    subst number
    exact ⟨k, key, rfl, kept k key waits, fresh⟩

theorem At.inFlow (here : At taken s stage) : s.inFlow = decide (0 < stage.depth) := by
  rw [Scanner.inFlow, ← here.depth]
  cases s.outerKeys <;> rfl

/-- A token begins right here: nothing is passed over, and no block ends. -/
theorem At.toToken (here : At taken s stage) {a : Char} {rest : List Char}
    (text : stage.rest = a :: rest) (solid : isBlankOrBreak a = false) (other : a ≠ '#') :
    s.toToken = s := by
  obtain ⟨blank, unbroken⟩ := Bool.or_eq_false_iff.1 solid
  have shape : s.cursor.rest = a :: rest := here.rest.trans text
  have column : decide (s.cursor.column = 0) = false := decide_eq_false (Nat.ne_of_gt here.inside)
  simp only [isBlank, Bool.or_eq_false_iff, decide_eq_false_iff_not] at blank
  have still : (s.cursor.skipWhile fun b => b = ' ' || ((s.inFlow || !s.keyAllowed) && b = '\t')) =
      s.cursor := Cursor.skipWhile_eq shape (by simp [blank])
  have comment : startsWith (· = '#') s.cursor.rest = false := by
    rw [shape]
    exact decide_eq_false other
  simp only [Scanner.toToken, Scanner.toTokenWithin, column, Bool.false_and, Bool.false_eq_true,
    if_false, still, comment, Cursor.takeBreak?_eq_none shape unbroken]

theorem unindent_of_flat (flat : s.outerIndents = []) (column : Int) : s.unindent column = s := by
  rw [Scanner.unindent, flat]
  simp [Scanner.unindentWithin]

/-- Outside of all blocks the next token is what the next character says. -/
theorem next_of_flat (flat : s.toToken.outerIndents = [])
    (optional : Scanner.Optional (s.toToken.key :: s.toToken.outerKeys)) :
    s.next = match s.toToken.cursor.rest with
      | [] => s.toToken.refreshed.endOfText
      | a :: rest => s.toToken.refreshed.tokenAt a rest := by
  rw [Scanner.next, Scanner.dropStale_of_optional optional]
  simp only [bind, Except.bind]
  rw [unindent_of_flat (s := s.toToken.refreshed) flat]
  rfl

/-- The character at the cursor decides which token the next turn scans. -/
theorem At.turn (here : At taken s stage) {a : Char} {rest : List Char}
    (text : stage.rest = a :: rest) (solid : isBlankOrBreak a = false) (other : a ≠ '#')
    (shorter : next.rest.length < stage.rest.length) {token : Scanner → Except Fault Scanner}
    (decides : ∀ {taken' s'}, At taken' s' stage → s'.tokenAt a rest = token s')
    (does : ∀ {taken' s'}, At taken' s' stage → ∃ s'', token s' = .ok s'' ∧ At taken' s'' next) :
    Reaches taken s next := by
  obtain ⟨ready, s₁, released, ready₁⟩ := here.release
  obtain ⟨s₂, scanned, after⟩ := does ready₁.refreshed
  have next_eq : s₁.next.bind Scanner.dropStale = .ok s₂.refreshed := by
    have still := ready₁.toToken text solid other
    have shape : s₁.cursor.rest = a :: rest := ready₁.rest.trans text
    have begun : s₁.next = .ok s₂ := by
      rw [next_of_flat (by rw [still, ready₁.outerIndents]) (by rw [still]; exact ready₁.optional),
        still, shape]
      exact (decides ready₁.refreshed).trans scanned
    rw [begun]
    exact Scanner.dropStale_of_optional after.optional
  refine ⟨_, _, 1, after.refreshed, ?_, fun fuel => ?_⟩
  · rw [here.rest]
    exact shorter
  · rw [TokenStream.within, released]
    simp only [ready₁.running, Bool.false_eq_true, if_false, next_eq]

/-- One more token behind the others, and the cursor behind its characters. -/
theorem At.add (here : At taken s stage) {front rest : List Char} (text : stage.rest = front ++ rest)
    (t : Token) {k : Option PendingKey} {outer : List (Option PendingKey)}
    (optional : Scanner.Optional (k :: outer)) (allowed : Bool) :
    At taken { s with
      waiting := s.waiting ++ [t], cursor := s.cursor.skip front.length, key := k, outerKeys := outer,
      keyAllowed := allowed } ⟨stage.seen ++ [t.lexeme], rest, outer.length, allowed, none⟩ :=
  { here with
    seen := by
      rw [← here.seen]
      simp
    rest := Cursor.rest_skip (here.rest.trans text)
    inside := Nat.lt_of_lt_of_le here.inside (Nat.le_add_right ..)
    depth := rfl
    keyAllowed := rfl
    optional := optional
    key := nofun }

/-- One more token of a single character. -/
theorem At.addSign (here : At taken s stage) {a : Char} {rest : List Char}
    (text : stage.rest = a :: rest) (t : Token) {k : Option PendingKey}
    {outer : List (Option PendingKey)} (optional : Scanner.Optional (k :: outer)) (allowed : Bool) :
    At taken { s with
      waiting := s.waiting ++ [t], cursor := s.cursor.skip 1, key := k, outerKeys := outer,
      keyAllowed := allowed } ⟨stage.seen ++ [t.lexeme], rest, outer.length, allowed, none⟩ :=
  have split : stage.rest = [a] ++ rest := text
  here.add split t optional allowed

theorem At.optional_outer (here : At taken s stage) {k : Option PendingKey}
    (free : ∀ p ∈ k, p.required = false) : Scanner.Optional (k :: s.outerKeys) :=
  List.forall_mem_cons.2 ⟨free, (List.forall_mem_cons.1 here.optional).2⟩

theorem At.markKey (here : At taken s stage) : ∃ k, s.markKey = .ok { s with key := k } ∧
    (∀ p ∈ k, p.required = false) ∧
    (stage.keyAllowed = true → k = some ⟨false, s.released + s.waiting.length, s.cursor.mark⟩) := by
  by_cases allowed : s.keyAllowed = true
  · -- Outside of all blocks no column is the block's own.
    have outside : decide (s.indent = s.column) = false := by
      rw [here.indent, Scanner.column, decide_eq_false_iff_not]
      omega
    refine ⟨some ⟨false, s.released + s.waiting.length, s.cursor.mark⟩, ?_, ?_, fun _ => rfl⟩
    · rw [Scanner.markKey, if_pos allowed, Scanner.dropKey_of_optional here.optional]
      have never : (!s.inFlow && decide (s.indent = s.column)) = false := by
        rw [outside, Bool.and_false]
      rw [← never]
      rfl
    · rintro _ ⟨rfl⟩
      rfl
  · refine ⟨s.key, by rw [Scanner.markKey, if_neg allowed], (List.forall_mem_cons.1 here.optional).1,
      fun permitted => ?_⟩
    rw [← here.keyAllowed] at permitted
    exact absurd permitted allowed

theorem At.openFlow (here : At taken s stage) {a : Char} {rest : List Char}
    (text : stage.rest = a :: rest) (lexeme : Lexeme) :
    ∃ s', s.openFlow lexeme = .ok s' ∧
      At taken s' ⟨stage.seen ++ [lexeme], rest, stage.depth + 1, true, none⟩ := by
  obtain ⟨k, marked, free, _⟩ := here.markKey
  have optional : Scanner.Optional (none :: k :: s.outerKeys) :=
    List.forall_mem_cons.2 ⟨nofun, here.optional_outer free⟩
  have added := here.addSign text ⟨lexeme, s.cursor.mark, (s.cursor.skip 1).mark⟩ optional true
  have deeper : (k :: s.outerKeys).length = stage.depth + 1 := congrArg (· + 1) here.depth
  rw [deeper] at added
  exact ⟨_, by rw [Scanner.openFlow, marked]; rfl, added⟩

theorem At.closeFlow (here : At taken s stage) {a : Char} {rest : List Char} {depth : Nat}
    (text : stage.rest = a :: rest) (inside : stage.depth = depth + 1) (lexeme : Lexeme) :
    ∃ s', s.closeFlow lexeme = .ok s' ∧
      At taken s' ⟨stage.seen ++ [lexeme], rest, depth, false, none⟩ := by
  obtain ⟨k, outer, keys⟩ : ∃ k outer, s.outerKeys = k :: outer :=
    List.exists_cons_of_length_eq_add_one (here.depth.trans inside)
  have optional : Scanner.Optional (k :: outer) := by
    rw [← keys]
    exact (List.forall_mem_cons.1 here.optional).2
  have added := here.addSign text ⟨lexeme, s.cursor.mark, (s.cursor.skip 1).mark⟩ optional false
  have length : outer.length = depth := by
    have := here.depth.trans inside
    rw [keys] at this
    exact Nat.succ.inj this
  rw [length] at added
  refine ⟨_, ?_, added⟩
  rw [Scanner.closeFlow, Scanner.dropKey_of_optional here.optional]
  simp only [bind, Except.bind, keys]
  rfl

theorem At.flowEntry (here : At taken s stage) {a : Char} {rest : List Char}
    (text : stage.rest = a :: rest) :
    ∃ s', s.flowEntry = .ok s' ∧
      At taken s' ⟨stage.seen ++ [.flowEntry], rest, stage.depth, true, none⟩ := by
  have added := here.addSign text ⟨.flowEntry, s.cursor.mark, (s.cursor.skip 1).mark⟩
    (here.optional_outer (k := none) nofun) true
  rw [here.depth] at added
  exact ⟨_, by rw [Scanner.flowEntry, Scanner.dropKey_of_optional here.optional]; rfl, added⟩

/-- A text may turn out to be a key if one may begin at it and a colon is near enough. -/
theorem At.quoted (here : At taken s stage) {cs rest : List Char} (visible : ∀ a ∈ cs, Visible a)
    (text : stage.rest = '"' :: (quotedChars cs ++ '"' :: rest)) {key : Option Nat}
    (pending : ∀ n ∈ key, n = stage.seen.length ∧ stage.keyAllowed = true ∧
      (quotedChars cs).length + 2 ≤ Scanner.longestKey) :
    ∃ s', s.keyPart (QuotedScalar.read false) = .ok s' ∧
      At taken s' ⟨stage.seen ++ [.scalar (String.ofList cs) .doubleQuoted], rest, stage.depth, false,
        key⟩ := by
  obtain ⟨k, marked, free, pend⟩ := here.markKey
  have read := QuotedScalar.read_quotedChars visible (here.rest.trans text)
  have split : stage.rest = '"' :: (quotedChars cs ++ ['"']) ++ rest := by simp [text]
  have added := here.add split ⟨.scalar (String.ofList cs) .doubleQuoted, s.cursor.mark,
    (s.cursor.skip ((quotedChars cs).length + 2)).mark⟩ (here.optional_outer free) false
  have length : ('"' :: (quotedChars cs ++ ['"'])).length = (quotedChars cs).length + 2 := by simp
  rw [here.depth, length] at added
  refine ⟨_, by simp only [Scanner.keyPart, marked, bind, Except.bind, read]; rfl, { added with
    key := ?_ }⟩
  intro n member
  obtain ⟨number, allowed, short⟩ := pending n member
  refine ⟨_, pend allowed, ?_, ?_, ?_⟩
  · rw [number, ← here.seen, here.released]
    simp
  · rw [number, ← here.seen]
    simp [here.released]
  · refine Bool.or_eq_false_iff.2 ⟨decide_eq_false (Nat.lt_irrefl _), decide_eq_false ?_⟩
    simp only [Cursor.skip, Mark.forward]
    omega

/-- A colon puts the key in front of the token that waited for it. -/
theorem At.value (here : At taken s stage) {a : Char} {rest : List Char} {before : List Lexeme}
    {last : Lexeme} (text : stage.rest = a :: rest) (inFlow : 0 < stage.depth)
    (seen : stage.seen = before ++ [last]) (key : stage.key = some before.length) :
    ∃ s', s.value = .ok s' ∧
      At taken s' ⟨before ++ [.key, last, .value], rest, stage.depth, false, none⟩ := by
  obtain ⟨k, pending, number, waits, _⟩ := here.key _ key
  have flows : s.inFlow = true := by simp [here.inFlow, inFlow]
  set place := k.number - s.released with place_eq
  have place_length : taken.reverse.length + place = before.length := by
    rw [List.length_reverse, ← here.released]
    omega
  have all : taken.reverse.map Token.lexeme ++ s.waiting.map Token.lexeme = before ++ [last] := by
    rw [← List.map_append, here.seen, seen]
  rw [← List.length_map (f := Token.lexeme)] at place_length
  have front : taken.reverse.map Token.lexeme ++ (s.waiting.take place).map Token.lexeme = before := by
    rw [List.map_take, ← List.take_length_add_append, all, place_length, List.take_left]
  have back : (s.waiting.drop place).map Token.lexeme = [last] := by
    have behind : (taken.reverse.map Token.lexeme ++ s.waiting.map Token.lexeme).drop
        ((taken.reverse.map Token.lexeme).length + place) = (s.waiting.map Token.lexeme).drop place :=
      List.drop_length_add_append ..
    rw [List.map_drop, ← behind, all, place_length, List.drop_left]
  have inserted : At taken
      { s with waiting := s.waiting.take place ++ ⟨.key, k.mark, k.mark⟩ :: s.waiting.drop place }
      { stage with seen := before ++ [.key, last] } :=
    { here with
      seen := by
        rw [List.map_append, List.map_append, List.map_cons, back, ← List.append_assoc, front] }
  have added := inserted.addSign text ⟨.value, s.cursor.mark, (s.cursor.skip 1).mark⟩
    (here.optional_outer (k := none) nofun) false
  rw [here.depth] at added
  have order : before ++ [.key, last] ++ [.value] = before ++ [.key, last, .value] := by simp
  rw [order] at added
  refine ⟨_, ?_, added⟩
  simp only [Scanner.value, pending, Scanner.insert, Scanner.indentTo, Scanner.inFlow] at flows ⊢
  simp only [flows, Bool.not_true, Bool.false_and, Bool.false_eq_true, if_false]
  rfl

theorem At.plain (here : At taken s stage) {word rest : List Char}
    (plain : ∀ a ∈ word, isWordChar a = true) (nonempty : word ≠ []) (ends : EndsWord rest)
    (text : stage.rest = word ++ rest) (inFlow : 0 < stage.depth) :
    ∃ s', s.plainScalar = .ok s' ∧
      At taken s' ⟨stage.seen ++ [.scalar (String.ofList word) .plain], rest, stage.depth, false,
        none⟩ := by
  obtain ⟨k, marked, free, _⟩ := here.markKey
  have flows : Scanner.inFlow { s with key := k } = true := by
    have same : Scanner.inFlow { s with key := k } = s.inFlow := rfl
    rw [same, here.inFlow, decide_eq_true inFlow]
  have read := PlainScalar.read_word plain nonempty ends (here.rest.trans text) here.inside
    (s.indent + 1)
  have added := here.add text ⟨.scalar (String.ofList word) .plain, s.cursor.mark,
    (s.cursor.skip word.length).mark⟩ (here.optional_outer free) false
  rw [here.depth] at added
  exact ⟨_, by simp only [Scanner.plainScalar, marked, bind, Except.bind, flows, read]; rfl, added⟩

inductive Opens : Char → Lexeme → Prop where
  | sequence : Opens '[' .flowSequenceStart
  | mapping : Opens '\x7b' .flowMappingStart

inductive Closes : Char → Lexeme → Prop where
  | sequence : Closes ']' .flowSequenceEnd
  | mapping : Closes '\x7d' .flowMappingEnd

theorem At.opens (here : At taken s stage) {a : Char} {rest : List Char} {lexeme : Lexeme}
    (text : stage.rest = a :: rest) (sign : Opens a lexeme) :
    Reaches taken s ⟨stage.seen ++ [lexeme], rest, stage.depth + 1, true, none⟩ := by
  refine here.turn text (by cases sign <;> decide) (by cases sign <;> decide)
    (by rw [text]; exact Nat.lt_succ_self _) (fun there => ?_) fun there =>
      there.openFlow text lexeme
  cases sign <;>
    simp [Scanner.tokenAt, Nat.ne_of_gt there.inside, Cursor.atIndicator_of_column there.inside]

theorem At.closes (here : At taken s stage) {a : Char} {rest : List Char} {lexeme : Lexeme}
    {depth : Nat} (text : stage.rest = a :: rest) (sign : Closes a lexeme)
    (inside : stage.depth = depth + 1) :
    Reaches taken s ⟨stage.seen ++ [lexeme], rest, depth, false, none⟩ := by
  refine here.turn text (by cases sign <;> decide) (by cases sign <;> decide)
    (by rw [text]; exact Nat.lt_succ_self _) (fun there => ?_) fun there =>
      there.closeFlow text inside lexeme
  cases sign <;>
    simp [Scanner.tokenAt, Nat.ne_of_gt there.inside, Cursor.atIndicator_of_column there.inside]

theorem At.comma (here : At taken s stage) {rest : List Char} (text : stage.rest = ',' :: rest) :
    Reaches taken s ⟨stage.seen ++ [.flowEntry], rest, stage.depth, true, none⟩ := by
  refine here.turn text (by decide) (by decide) (by rw [text]; exact Nat.lt_succ_self _)
    (fun there => ?_) fun there => there.flowEntry text
  simp [Scanner.tokenAt, Nat.ne_of_gt there.inside, Cursor.atIndicator_of_column there.inside]

theorem At.colon (here : At taken s stage) {rest : List Char} {before : List Lexeme} {last : Lexeme}
    (text : stage.rest = ':' :: rest) (inFlow : 0 < stage.depth)
    (seen : stage.seen = before ++ [last]) (key : stage.key = some before.length) :
    Reaches taken s ⟨before ++ [.key, last, .value], rest, stage.depth, false, none⟩ := by
  refine here.turn text (by decide) (by decide) (by rw [text]; exact Nat.lt_succ_self _)
    (fun there => ?_) fun there => there.value text inFlow seen key
  simp [Scanner.tokenAt, Nat.ne_of_gt there.inside, Cursor.atIndicator_of_column there.inside,
    there.inFlow, inFlow]

theorem At.text (here : At taken s stage) {cs rest : List Char} (visible : ∀ a ∈ cs, Visible a)
    (text : stage.rest = '"' :: (quotedChars cs ++ '"' :: rest)) {key : Option Nat}
    (pending : ∀ n ∈ key, n = stage.seen.length ∧ stage.keyAllowed = true ∧
      (quotedChars cs).length + 2 ≤ Scanner.longestKey) :
    Reaches taken s ⟨stage.seen ++ [.scalar (String.ofList cs) .doubleQuoted], rest, stage.depth,
      false, key⟩ := by
  refine here.turn text (by decide) (by decide) (by rw [text]; simp; omega) (fun there => ?_)
    fun there => there.quoted visible text pending
  simp [Scanner.tokenAt, Nat.ne_of_gt there.inside, Cursor.atIndicator_of_column there.inside]

/-- No word is taken for a sign; a dash with a word or punctuation behind it is none. -/
theorem tokenAt_word {a : Char} {rest : List Char} (word : isWordChar a = true)
    (solid : startsWith isBlankOrBreak rest = false) (nonempty : rest ≠ [])
    (inside : 0 < s.cursor.column) : s.tokenAt a rest = s.plainScalar := by
  have other (d : Char) (mark : isWordChar d = false) : (a = d) = False := by
    rw [eq_iff_iff, iff_false]
    rintro rfl
    rw [mark] at word
    cases word
  have blank : isBlankOrBreak a = false := (isWordChar_solid word).1
  obtain ⟨b, rest, rfl⟩ := List.exists_cons_of_ne_nil nonempty
  have follows : isBlankOrBreak b = false := solid
  have noBlank : isBlank b = false := (Bool.or_eq_false_iff.1 follows).1
  have starts : Scanner.startsPlain s.inFlow a (b :: rest) = true := by
    by_cases dash : a = '-'
    · simp [Scanner.startsPlain, dash, startsWith, noBlank]
    · have mark : Scanner.isIndicator a = false := by
        simp [Scanner.isIndicator, dash, other '?' (by decide), other ':' (by decide),
          other ',' (by decide), other '[' (by decide), other ']' (by decide),
          other '\x7b' (by decide), other '\x7d' (by decide), other '#' (by decide),
          other '&' (by decide), other '*' (by decide), other '!' (by decide), other '|' (by decide),
          other '>' (by decide), other '\'' (by decide), other '"' (by decide), other '%' (by decide),
          other '@' (by decide), other '\x60' (by decide)]
      simp [Scanner.startsPlain, blank, mark]
  simp [Scanner.tokenAt, Nat.ne_of_gt inside, Cursor.atIndicator_of_column inside, endsWord, follows,
    starts, other '[' (by decide), other '\x7b' (by decide), other ']' (by decide),
    other '\x7d' (by decide), other ',' (by decide), other '?' (by decide), other ':' (by decide),
    other '*' (by decide), other '&' (by decide), other '!' (by decide), other '|' (by decide),
    other '>' (by decide), other '\'' (by decide), other '"' (by decide)]

theorem At.word (here : At taken s stage) {word rest : List Char}
    (plain : ∀ a ∈ word, isWordChar a = true) (nonempty : word ≠ []) (ends : EndsWord rest)
    (text : stage.rest = word ++ rest) (inFlow : 0 < stage.depth) :
    Reaches taken s ⟨stage.seen ++ [.scalar (String.ofList word) .plain], rest, stage.depth, false,
      none⟩ := by
  obtain ⟨a, others, rfl⟩ := List.exists_cons_of_ne_nil nonempty
  obtain ⟨first, later⟩ := List.forall_mem_cons.1 plain
  obtain ⟨solid, _, other, _⟩ := isWordChar_solid first
  have shorter : rest.length < stage.rest.length := by
    rw [text, List.length_append, List.length_cons]
    omega
  refine here.turn text solid other shorter (fun there => ?_) fun there =>
    there.plain plain nonempty ends text inFlow
  obtain ⟨b, rest, rfl, mark⟩ := ends
  refine tokenAt_word first ?_ (by simp) there.inside
  cases others with
  | nil => exact (solid_of_isFlowPunctuation mark).1
  | cons c others => exact (isWordChar_solid (later c (List.mem_cons_self ..))).1

/-- A brace at the beginning of a text opens a flow mapping. -/
theorem next_start_mapping (rest : List Char) {s : Scanner}
    (begun : s = { Scanner.start ('\x7b' :: rest) with waiting := [], released := 1 }) :
    ∃ s', s.next = .ok s' ∧
      At [⟨.streamStart, .origin, .origin⟩] s'
        ⟨[.streamStart, .flowMappingStart], rest, 1, true, none⟩ := by
  subst begun
  refine ⟨_, rfl, ?_⟩
  exact
    { seen := rfl
      released := rfl
      rest := rfl
      inside := Nat.zero_lt_one
      depth := rfl
      keyAllowed := rfl
      optional := by
        have free : ∀ p ∈ some (PendingKey.mk false 1 .origin), p.required = false := by
          rintro _ ⟨rfl⟩
          rfl
        exact List.forall_mem_cons.2 ⟨nofun, List.forall_mem_cons.2 ⟨free, nofun⟩⟩
      indent := rfl
      outerIndents := rfl
      running := rfl
      key := nofun }

/-- Behind the brace that a text begins with. -/
theorem start_mapping (rest : List Char) : ∃ taken s,
    At taken s ⟨[.streamStart, .flowMappingStart], rest, 1, true, none⟩ ∧
    ∀ fuel, TokenStream.within (fuel + 1) [] (.start ('\x7b' :: rest)) =
      TokenStream.within fuel taken s := by
  obtain ⟨s, opened, behind⟩ := next_start_mapping rest rfl
  refine ⟨_, _, behind.refreshed, fun fuel => ?_⟩
  have released : (Scanner.start ('\x7b' :: rest)).release = ([⟨.streamStart, .origin, .origin⟩],
      { Scanner.start ('\x7b' :: rest) with waiting := [], released := 1 }) := rfl
  have stepped : Except.bind (.ok s) Scanner.dropStale = .ok s.refreshed :=
    Scanner.dropStale_of_optional behind.optional
  rw [TokenStream.within, released]
  simp only [opened, stepped]
  rfl

/-- Nothing but the last line break is passed over at the end. -/
theorem toToken_of_ending (inside : 0 < s.cursor.column)
    (ending : s.cursor.rest = [] ∨ s.cursor.rest = ['\n']) : ∃ mark allowed,
    s.toToken = { s with cursor := ⟨mark, []⟩, keyAllowed := allowed } := by
  have column : decide (s.cursor.column = 0) = false := decide_eq_false (Nat.ne_of_gt inside)
  obtain ⟨⟨mark, rest⟩, waiting, released, indent, outer, allowed, key, outerKeys, ended⟩ := s
  rcases ending with rfl | rfl
  · refine ⟨mark.forward 0, allowed, ?_⟩
    simp [Scanner.toToken, Scanner.toTokenWithin, Cursor.skipWhile, Cursor.span, Cursor.takeBreak?,
      startsWith]
  · refine ⟨((mark.forward 0).nextLine 1).forward 0, allowed || outerKeys.isEmpty, ?_⟩
    simp [Scanner.toToken, Scanner.toTokenWithin, Cursor.skipWhile, Cursor.span, Cursor.takeBreak?,
      startsWith, column, isBreak, Scanner.inFlow]

theorem endOfText_of_flat (flat : s.outerIndents = [])
    (optional : Scanner.Optional (s.key :: s.outerKeys)) :
    ∃ t s', s.endOfText = .ok s' ∧ t.lexeme = .streamEnd ∧ s'.waiting = s.waiting ++ [t] ∧
      s'.ended = true ∧ Scanner.Optional (s'.key :: s'.outerKeys) := by
  simp only [Scanner.endOfText]
  set m : Mark := if s.cursor.mark.column = 0 then s.cursor.mark else
    ⟨s.cursor.mark.index, s.cursor.mark.line + 1, 0⟩
  rw [unindent_of_flat (s := { s with cursor := ⟨m, []⟩ }) flat,
    Scanner.dropKey_of_optional (s := { s with cursor := ⟨m, []⟩ }) optional]
  exact ⟨⟨.streamEnd, m, m⟩, _, rfl, rfl, rfl, rfl,
    List.forall_mem_cons.2 ⟨nofun, (List.forall_mem_cons.1 optional).2⟩⟩

/-- Where the text ends, its end is the last token. -/
theorem At.next_of_ending (here : At taken s stage)
    (ending : stage.rest = [] ∨ stage.rest = ['\n']) :
    ∃ t s', s.next = .ok s' ∧ t.lexeme = .streamEnd ∧ s'.waiting = s.waiting ++ [t] ∧
      s'.ended = true ∧ Scanner.Optional (s'.key :: s'.outerKeys) := by
  rw [← here.rest] at ending
  obtain ⟨mark, allowed, passed⟩ := toToken_of_ending here.inside ending
  have flat : s.toToken.outerIndents = [] := by
    rw [passed]
    exact here.outerIndents
  have optional : Scanner.Optional (s.toToken.key :: s.toToken.outerKeys) := by
    rw [passed]
    exact here.optional
  have exhausted : s.toToken.cursor.rest = [] := by rw [passed]
  have waiting : s.toToken.refreshed.waiting = s.waiting := by
    rw [passed]
    rfl
  rw [next_of_flat flat optional, exhausted, ← waiting]
  exact endOfText_of_flat (s := s.toToken.refreshed) flat (Scanner.optional_refreshed optional)

/-- At the end of the text, or in front of its last line break. -/
theorem At.finish (here : At taken s stage) (ending : stage.rest = [] ∨ stage.rest = ['\n'])
    (fuel : Nat) : ∃ tokens, TokenStream.within (fuel + 2) taken s = ⟨tokens, none⟩ ∧
      tokens.map Token.lexeme = stage.seen ++ [.streamEnd] := by
  obtain ⟨ready, s₁, released, there⟩ := here.release
  obtain ⟨t, s₂, scanned, sign, waiting, ended, optional⟩ := there.next_of_ending ending
  have stepped : Except.bind (.ok s₂) Scanner.dropStale = .ok s₂.refreshed :=
    Scanner.dropStale_of_optional optional
  obtain ⟨more, left, released₂, split, _⟩ :=
    Scanner.releaseWithin_eq s₂.refreshed.waiting.length [] s₂.refreshed
  have last : more ++ left = s₁.waiting ++ [t] := split.trans waiting
  have final : s₂.refreshed.ended = true := ended
  refine ⟨(ready.reverse ++ taken).reverse ++ (s₁.waiting ++ [t]), ?_, ?_⟩
  · rw [TokenStream.within, released]
    simp only [there.running, Bool.false_eq_true, if_false, scanned, stepped]
    rw [TokenStream.within, Scanner.release, released₂]
    simp only [final, if_true, ← last]
    simp
  · rw [← List.append_assoc, List.map_append, there.seen, List.map_singleton, sign]

end

end TopicGateway.Yaml
