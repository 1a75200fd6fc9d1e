import Mathlib.Data.List.Forall2
import TopicGateway.Broker.Topic

/-! Which keys a pattern matches. A key matches when its words can be dealt out in order, a stretch of
them to each word of the pattern; the matcher tries every end of the key for a `#`, and one such end is
the deal that it finds. -/
namespace TopicGateway.Broker

/-- The words of a text: without a separator inside, and the text again when they are joined by it. -/
structure Cut (separator : Char) (cs : List Char) (words : List (List Char)) : Prop where
  nonempty : words ≠ []
  undivided : ∀ word ∈ words, separator ∉ word
  joined : [separator].intercalate words = cs

section Pieces

variable {separator : Char} {cs word : List Char} {words : List (List Char)}

theorem pieces_separator (separator : Char) (cs : List Char) :
    pieces separator (separator :: cs) = [] :: pieces separator cs := by
  simp [pieces]

theorem pieces_other {c : Char} (other : c ≠ separator) (found : pieces separator cs = word :: words) :
    pieces separator (c :: cs) = (c :: word) :: words := by
  rw [pieces] at found
  rw [pieces, List.foldr_cons, found, if_neg other]

theorem Cut.behind_separator (cut : Cut separator cs words) :
    Cut separator (separator :: cs) ([] :: words) := by
  obtain ⟨first, rest, rfl⟩ := List.exists_cons_of_ne_nil cut.nonempty
  refine ⟨List.cons_ne_nil _ _, List.forall_mem_cons.2 ⟨List.not_mem_nil, cut.undivided⟩, ?_⟩
  rw [List.intercalate_cons_cons, cut.joined]
  rfl

theorem Cut.behind_other {c : Char} (other : c ≠ separator) (cut : Cut separator cs (word :: words)) :
    Cut separator (c :: cs) ((c :: word) :: words) := by
  obtain ⟨first, later⟩ := List.forall_mem_cons.1 cut.undivided
  refine ⟨List.cons_ne_nil _ _, List.forall_mem_cons.2 ⟨?_, later⟩, ?_⟩
  · exact List.not_mem_cons_of_ne_of_not_mem other.symm first
  · rw [← cut.joined]
    cases words with
    | nil => simp
    | cons next words => simp [List.intercalate_cons_cons]

theorem cut_pieces (separator : Char) (cs : List Char) : Cut separator cs (pieces separator cs) := by
  induction cs with
  | nil => exact ⟨List.cons_ne_nil _ _, by simp [pieces], rfl⟩
  | cons c cs ih =>
    by_cases same : c = separator
    · subst same
      rw [pieces_separator]
      exact ih.behind_separator
    · obtain ⟨first, rest, found⟩ := List.exists_cons_of_ne_nil ih.nonempty
      rw [pieces_other same found]
      rw [found] at ih
      exact ih.behind_other same

theorem pieces_of_undivided (whole : separator ∉ word) : pieces separator word = [word] := by
  induction word with
  | nil => rfl
  | cons c word ih =>
    obtain ⟨other, later⟩ := not_or.1 (mt List.mem_cons.2 whole)
    exact pieces_other (Ne.symm other) (ih later)

theorem pieces_append (whole : separator ∉ word) (rest : List Char) :
    pieces separator (word ++ separator :: rest) = word :: pieces separator rest := by
  induction word with
  | nil => exact pieces_separator separator rest
  | cons c word ih =>
    obtain ⟨other, later⟩ := not_or.1 (mt List.mem_cons.2 whole)
    exact pieces_other (Ne.symm other) (ih later)

/-- What is joined is cut where it was joined. -/
theorem pieces_intercalate (undivided : ∀ word ∈ words, separator ∉ word) (nonempty : words ≠ []) :
    pieces separator ([separator].intercalate words) = words := by
  induction words with
  | nil => exact absurd rfl nonempty
  | cons word words ih =>
    obtain ⟨first, later⟩ := List.forall_mem_cons.1 undivided
    cases words with
    | nil => rw [List.intercalate_singleton, pieces_of_undivided first]
    | cons next words =>
      rw [List.intercalate_cons_cons, List.append_assoc, List.singleton_append, pieces_append first,
        ih later (List.cons_ne_nil _ _)]

theorem cut_iff : Cut separator cs words ↔ words = pieces separator cs := by
  constructor
  · intro cut
    rw [← cut.joined, pieces_intercalate cut.undivided cut.nonempty]
  · rintro rfl
    exact cut_pieces separator cs

theorem length_pieces (separator : Char) (cs : List Char) :
    (pieces separator cs).length = cs.count separator + 1 := by
  induction cs with
  | nil => rfl
  | cons c cs ih =>
    by_cases same : c = separator
    · subst same
      rw [pieces_separator, List.length_cons, ih, List.count_cons_self]
    · obtain ⟨first, rest, found⟩ := List.exists_cons_of_ne_nil (cut_pieces separator cs).nonempty
      rw [found, List.length_cons] at ih
      rw [pieces_other same found, List.length_cons, ih, List.count_cons_of_ne same]

end Pieces

/-- The words of a key that may go to a word of a pattern. -/
def PatternWord.Takes : PatternWord → List (List Char) → Prop
  | .one, segment => ∃ word, segment = [word]
  | .many, _ => True
  | .exactly word, segment => segment = [word]

/-- What a word of a pattern takes of a key: `#` any words, `*` one word, and any other word itself. -/
def Takes (word : List Char) (segment : List (List Char)) : Prop :=
  word = ['#'] ∨ word = ['*'] ∧ segment.length = 1 ∨
    word ≠ ['#'] ∧ word ≠ ['*'] ∧ segment = [word]

theorem PatternWord.takes_ofWord (word : List Char) (segment : List (List Char)) :
    (ofWord word).Takes segment ↔ Broker.Takes word segment := by
  unfold ofWord
  split
  · next many => simp [PatternWord.Takes, Broker.Takes, many]
  split
  · next many one => simp [PatternWord.Takes, Broker.Takes, one, List.length_eq_one_iff]
  · next many one => simp [PatternWord.Takes, Broker.Takes, many, one]

theorem anySuffix_eq_true_iff {α : Type} {holds : List α → Bool} {l : List α} :
    anySuffix holds l = true ↔ ∃ front back, l = front ++ back ∧ holds back = true := by
  induction l with
  | nil => simp [anySuffix]
  | cons a l ih =>
    rw [anySuffix, Bool.or_eq_true, ih]
    constructor
    · rintro (whole | ⟨front, back, rfl, found⟩)
      · exact ⟨[], a :: l, rfl, whole⟩
      · exact ⟨a :: front, back, rfl, found⟩
    · rintro ⟨front, back, split, found⟩
      cases front with
      | nil =>
        cases split
        exact .inl found
      | cons b front =>
        cases split
        exact .inr ⟨front, back, rfl, found⟩

/-- The first word of the pattern takes a front of the key, and the others match what is left. -/
theorem matchWords_cons_iff {word : PatternWord} {pattern : List PatternWord}
    {key : List (List Char)} : matchWords (word :: pattern) key = true ↔
      ∃ front back, key = front ++ back ∧ word.Takes front ∧ matchWords pattern back = true := by
  cases word with
  | many =>
    rw [matchWords, anySuffix_eq_true_iff]
    simp [PatternWord.Takes]
  | one =>
    cases key with
    | nil => simp [matchWords, PatternWord.Takes]
    | cons first rest =>
      rw [matchWords]
      constructor
      · exact fun found => ⟨[first], rest, rfl, ⟨first, rfl⟩, found⟩
      · rintro ⟨_, back, split, ⟨word, rfl⟩, found⟩
        cases split
        exact found
  | exactly word =>
    cases key with
    | nil => simp [matchWords, PatternWord.Takes]
    | cons first rest =>
      rw [matchWords, Bool.and_eq_true, decide_eq_true_iff]
      constructor
      · rintro ⟨rfl, found⟩
        exact ⟨[first], rest, rfl, rfl, found⟩
      · rintro ⟨_, back, split, rfl, found⟩
        cases split
        exact ⟨rfl, found⟩

theorem matchWords_iff {pattern : List PatternWord} {key : List (List Char)} :
    matchWords pattern key = true ↔
      ∃ segments, List.Forall₂ PatternWord.Takes pattern segments ∧ segments.flatten = key := by
  induction pattern generalizing key with
  | nil =>
    rw [matchWords, List.isEmpty_iff]
    constructor
    · rintro rfl
      exact ⟨[], .nil, rfl⟩
    · rintro ⟨_, deal, rfl⟩
      cases deal
      rfl
  | cons word pattern ih =>
    rw [matchWords_cons_iff]
    constructor
    · rintro ⟨front, back, rfl, takes, found⟩
      obtain ⟨segments, deal, rfl⟩ := ih.1 found
      exact ⟨front :: segments, .cons takes deal, List.flatten_cons⟩
    · rintro ⟨_, deal, rfl⟩
      cases deal with
      | cons takes deal => exact ⟨_, _, List.flatten_cons, takes, ih.2 ⟨_, deal, rfl⟩⟩

/-- A key matches a pattern just when its words can be dealt out in order to the words of the pattern,
each of which takes what it stands for. The words of a text are what lies between its dots, one more of
them than dots. -/
theorem topicMatches_iff_deal (pattern key : String) :
    (∀ (text : String) (ws : List (List Char)), Cut '.' text.toList ws ↔ ws = words text) ∧
    (∀ text : String, (words text).length = text.toList.count '.' + 1) ∧
    (topicMatches pattern key = true ↔
      ∃ segments, List.Forall₂ Takes (words pattern) segments ∧ segments.flatten = words key) := by
  refine ⟨fun text ws => cut_iff, fun text => length_pieces '.' text.toList, ?_⟩
  rw [topicMatches, matchWords_iff, patternWords]
  simp only [List.forall₂_map_left_iff, PatternWord.takes_ofWord]

/-- Two `#` share out what the words between them leave. An empty word counts as one, and a star in a
key is a word like any other. -/
example : topicMatches "#.b.#.*" "a.b.b..c" = true ∧ topicMatches "a.*" "a" = false ∧
    topicMatches "a.*" "a." = true ∧ topicMatches "a.b" "a.*" = false := by decide

end TopicGateway.Broker
