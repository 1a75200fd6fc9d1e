import Mathlib.Data.List.Count
import TopicGateway.Proofs.Broker.Topic

/-! Runs of wildcards. A pattern that is put together of two matches a key just when the key can be cut
in two for them. A run of wildcards with a `#` in it asks only for enough words, one for each `*`, so
that its order and its further `#` decide nothing, whatever stands around it. -/
namespace TopicGateway.Broker

theorem matchWords_append_iff {pattern later : List PatternWord} {key : List (List Char)} :
    matchWords (pattern ++ later) key = true ↔
      ∃ front back, key = front ++ back ∧ matchWords pattern front = true ∧
        matchWords later back = true := by
  induction pattern generalizing key with
  | nil => simp [matchWords]
  | cons word pattern ih =>
    rw [List.cons_append, matchWords_cons_iff]
    simp only [ih, matchWords_cons_iff]
    constructor
    · rintro ⟨first, _, rfl, takes, middle, back, rfl, found, rest⟩
      exact ⟨first ++ middle, back, (List.append_assoc ..).symm, ⟨first, middle, rfl, takes, found⟩,
        rest⟩
    · rintro ⟨_, back, rfl, ⟨first, middle, rfl, takes, found⟩, rest⟩
      exact ⟨first, middle ++ back, List.append_assoc .., takes, middle, back, rfl, found, rest⟩

/-- What can be put in the place of what, in the middle of any pattern. -/
theorem matchWords_congr {run other : List PatternWord}
    (same : ∀ key, matchWords run key = true ↔ matchWords other key = true)
    (before after : List PatternWord) (key : List (List Char)) :
    matchWords (before ++ run ++ after) key = matchWords (before ++ other ++ after) key := by
  rw [Bool.eq_iff_iff]
  simp only [matchWords_append_iff, same]

/-- A run of wildcards takes as many words as it has stars, and more if there is a `#` in it. -/
theorem matchWords_run_iff {run : List PatternWord} {key : List (List Char)}
    (wild : ∀ word ∈ run, word = .one ∨ word = .many) :
    matchWords run key = true ↔
      run.count .one ≤ key.length ∧ (.many ∉ run → run.count .one = key.length) := by
  induction run generalizing key with
  | nil =>
    rw [matchWords, List.isEmpty_iff]
    simp [eq_comm]
  | cons word run ih =>
    obtain ⟨first, later⟩ := List.forall_mem_cons.1 wild
    rw [matchWords_cons_iff]
    simp only [ih later]
    rcases first with rfl | rfl
    · simp only [PatternWord.Takes, List.count_cons_self, List.mem_cons, reduceCtorEq, false_or]
      constructor
      · rintro ⟨_, back, rfl, ⟨first, rfl⟩, enough, whole⟩
        rw [List.length_append, List.length_singleton]
        exact ⟨by omega, fun absent => by
          have := whole absent
          omega⟩
      · rintro ⟨enough, whole⟩
        cases key with
        | nil => exact absurd enough (Nat.not_succ_le_zero _)
        | cons first rest =>
          rw [List.length_cons] at enough whole
          exact ⟨[first], rest, rfl, ⟨first, rfl⟩, by omega, fun absent => by
            have := whole absent
            omega⟩
    · have stars : (PatternWord.many :: run).count .one = run.count .one :=
        List.count_cons_of_ne (by decide)
      simp only [stars, PatternWord.Takes, List.mem_cons, true_or, not_true, false_imp_iff, and_true]
      constructor
      · rintro ⟨front, back, rfl, _, enough, _⟩
        rw [List.length_append]
        omega
      · intro enough
        -- The `#` takes all words but as many as there are stars.
        refine ⟨key.take (key.length - run.count .one), key.drop (key.length - run.count .one),
          (List.take_append_drop ..).symm, trivial, ?_, fun _ => ?_⟩
        all_goals
          rw [List.length_drop]
          omega

def IsWildcard (word : List Char) : Prop :=
  word = ['*'] ∨ word = ['#']

instance : DecidablePred IsWildcard :=
  fun _ => inferInstanceAs (Decidable (_ ∨ _))

/-- The run of so many stars with one `#` behind them. -/
def starsThenMany (stars : Nat) : List (List Char) :=
  List.replicate stars ['*'] ++ [['#']]

section

variable {run : List (List Char)}

theorem wild_map_ofWord (wild : ∀ word ∈ run, IsWildcard word) :
    ∀ word ∈ run.map PatternWord.ofWord, word = .one ∨ word = .many := by
  intro _ member
  obtain ⟨word, inside, rfl⟩ := List.mem_map.1 member
  rcases wild word inside with rfl | rfl
  · exact .inl (by decide)
  · exact .inr (by decide)

theorem many_mem_map_ofWord (many : ['#'] ∈ run) : .many ∈ run.map PatternWord.ofWord :=
  List.mem_map.2 ⟨['#'], many, by decide⟩

theorem count_map_ofWord (wild : ∀ word ∈ run, IsWildcard word) :
    (run.map PatternWord.ofWord).count .one = run.count ['*'] := by
  induction run with
  | nil => rfl
  | cons word run ih =>
    obtain ⟨first, later⟩ := List.forall_mem_cons.1 wild
    rw [List.map_cons, List.count_cons, List.count_cons, ih later]
    rcases first with rfl | rfl <;> rfl

/-- A run with a `#` asks for as many words as it has stars. -/
theorem matchWords_wildcards_iff {key : List (List Char)} (wild : ∀ word ∈ run, IsWildcard word)
    (many : ['#'] ∈ run) :
    matchWords (run.map .ofWord) key = true ↔ run.count ['*'] ≤ key.length := by
  rw [matchWords_run_iff (wild_map_ofWord wild), count_map_ofWord wild]
  exact and_iff_left fun absent => absurd (many_mem_map_ofWord many) absent

end

theorem wild_starsThenMany (stars : Nat) : ∀ word ∈ starsThenMany stars, IsWildcard word := by
  intro word member
  rcases List.mem_append.1 member with star | many
  · exact .inl (List.eq_of_mem_replicate star)
  · exact .inr (List.mem_singleton.1 many)

theorem many_mem_starsThenMany (stars : Nat) : ['#'] ∈ starsThenMany stars :=
  List.mem_append_right _ (List.mem_singleton_self _)

theorem count_starsThenMany (stars : Nat) : (starsThenMany stars).count ['*'] = stars := by
  rw [starsThenMany, List.count_append, List.count_replicate_self]
  rfl

/-- Between any words, a run of wildcards with a `#` in it can be written with its stars in front and
one `#` behind them: the same keys match. So two runs with a `#` that have as many stars can stand for
one another, whatever their order and however many `#` they have. -/
theorem wildcards_in_any_order (before after run key : List (List Char))
    (wild : ∀ word ∈ run, IsWildcard word) (many : ['#'] ∈ run) :
    matchWords ((before ++ run ++ after).map .ofWord) key =
      matchWords ((before ++ starsThenMany (run.count ['*']) ++ after).map .ofWord) key ∧
    ∀ other : List (List Char), (∀ word ∈ other, IsWildcard word) → ['#'] ∈ other →
      other.count ['*'] = run.count ['*'] →
      matchWords ((before ++ other ++ after).map .ofWord) key =
        matchWords ((before ++ run ++ after).map .ofWord) key := by
  have alike (other : List (List Char)) (otherWild : ∀ word ∈ other, IsWildcard word)
      (otherMany : ['#'] ∈ other) (stars : other.count ['*'] = run.count ['*']) :
      matchWords ((before ++ other ++ after).map .ofWord) key =
        matchWords ((before ++ run ++ after).map .ofWord) key := by
    simp only [List.map_append]
    refine matchWords_congr (fun key => ?_) _ _ key
    rw [matchWords_wildcards_iff otherWild otherMany, matchWords_wildcards_iff wild many, stars]
  exact ⟨(alike _ (wild_starsThenMany _) (many_mem_starsThenMany _) (count_starsThenMany _)).symm,
    alike⟩

/-- `a.#.*.#.b` matches what `a.*.#.b` does, here `a.x.y.b`. -/
theorem mixed_run_in_any_order :
    (∀ word ∈ [['#'], ['*'], ['#']], IsWildcard word) ∧ ['#'] ∈ [['#'], ['*'], ['#']] ∧
    matchWords (([['a']] ++ [['#'], ['*'], ['#']] ++ [['b']]).map .ofWord)
      [['a'], ['x'], ['y'], ['b']] =
      matchWords (([['a']] ++ [['*'], ['#']] ++ [['b']]).map .ofWord)
        [['a'], ['x'], ['y'], ['b']] ∧
    matchWords (([['a']] ++ [['#'], ['*'], ['#']] ++ [['b']]).map .ofWord)
      [['a'], ['x'], ['y'], ['b']] = true :=
  have wild : ∀ word ∈ [['#'], ['*'], ['#']], IsWildcard word := by decide
  ⟨wild, by decide, (wildcards_in_any_order [['a']] [['b']] [['#'], ['*'], ['#']]
    [['a'], ['x'], ['y'], ['b']] wild (by decide)).1, by decide⟩

end TopicGateway.Broker
