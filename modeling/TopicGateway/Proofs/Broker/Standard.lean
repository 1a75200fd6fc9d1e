import TopicGateway.Proofs.Broker.Topic
import TopicGateway.Proofs.Broker.Topology

/-! Where the standard topology sends a message. Each of its patterns is a first word and a star, so a
key is delivered by its first word, to one queue, and only if it has one more word. -/
namespace TopicGateway.Broker

theorem matchWords_first_iff {first : List Char} {key : List (List Char)} :
    matchWords [.exactly first, .one] key = true ↔ ∃ second, key = [first, second] := by
  rcases key with _ | ⟨word, _ | ⟨second, _ | ⟨third, rest⟩⟩⟩
  all_goals simp [matchWords]

theorem words_eq_pair_iff {key : String} {first second : List Char} :
    words key = [first, second] ↔
      '.' ∉ first ∧ '.' ∉ second ∧ key.toList = first ++ '.' :: second := by
  rw [words, eq_comm, ← cut_iff]
  constructor
  · intro cut
    obtain ⟨whole, rest⟩ := List.forall_mem_cons.1 cut.undivided
    refine ⟨whole, rest second (List.mem_singleton_self _), ?_⟩
    rw [← cut.joined, List.intercalate_cons_cons, List.intercalate_singleton, List.append_assoc]
    rfl
  · rintro ⟨whole, rest, joined⟩
    refine ⟨List.cons_ne_nil _ _, ?_, ?_⟩
    · exact List.forall_mem_cons.2 ⟨whole, List.forall_mem_singleton.2 rest⟩
    · rw [joined, List.intercalate_cons_cons, List.intercalate_singleton, List.append_assoc]
      rfl

namespace Topology

/-- The queues of the standard topology by the first words of their keys. -/
def standardQueues : List (String × String) :=
  [("backtest", "backtest_queue"), ("strategy", "strategy_queue"), ("data", "data_queue")]

theorem standard_bindings :
    standard.bindings = standardQueues.map fun (first, queue) => ⟨queue, first ++ ".*"⟩ := by
  decide

theorem patternWords_standard : ∀ entry ∈ standardQueues,
    patternWords (entry.1 ++ ".*") = [.exactly entry.1.toList, .one] ∧ '.' ∉ entry.1.toList := by
  decide

theorem standardQueues_injective : ∀ entry ∈ standardQueues, ∀ other ∈ standardQueues,
    entry.1.toList = other.1.toList → entry.2 = other.2 := by
  decide

section

variable {key : String}

theorem mem_standard_iff {queue : String} : queue ∈ standard.matchingQueues key ↔
    ∃ first, (first, queue) ∈ standardQueues ∧ ∃ second, words key = [first.toList, second] := by
  rw [mem_matchingQueues_iff, standard_bindings]
  simp only [List.mem_map, topicMatches]
  constructor
  · rintro ⟨_, ⟨⟨first, queue⟩, entry, rfl⟩, rfl, fits⟩
    rw [(patternWords_standard _ entry).1, matchWords_first_iff] at fits
    exact ⟨first, entry, fits⟩
  · rintro ⟨first, entry, fits⟩
    refine ⟨_, ⟨(first, queue), entry, rfl⟩, rfl, ?_⟩
    rwa [(patternWords_standard _ entry).1, matchWords_first_iff]

/-- Two queues that a message goes to are the same. -/
theorem standard_unique {queue other : String} (one : queue ∈ standard.matchingQueues key)
    (two : other ∈ standard.matchingQueues key) : queue = other := by
  obtain ⟨first, entry, second, split⟩ := mem_standard_iff.1 one
  obtain ⟨first', entry', second', split'⟩ := mem_standard_iff.1 two
  have same := (List.cons.inj (split.symm.trans split')).1
  exact standardQueues_injective _ entry _ entry' same

theorem standard_eq_singleton {queue : String} (member : queue ∈ standard.matchingQueues key) :
    standard.matchingQueues key = [queue] := by
  refine List.perm_singleton.1 ((List.perm_ext_iff_of_nodup (nodup_matchingQueues _ key)
    (List.pairwise_singleton _ queue)).2 fun other => ?_)
  rw [List.mem_singleton]
  constructor
  · exact fun two => standard_unique two member
  · rintro rfl
    exact member

theorem standard_eq (key : String) : standard.matchingQueues key = [] ∨
    ∃ queue, standard.matchingQueues key = [queue] := by
  rcases List.eq_nil_or_concat (standard.matchingQueues key) with empty | ⟨_, queue, found⟩
  · exact .inl empty
  · refine .inr ⟨queue, standard_eq_singleton ?_⟩
    rw [found]
    simp

theorem words_of_joined {first second : String} (whole : '.' ∉ first.toList)
    (undivided : '.' ∉ second.toList) (joined : key = first ++ "." ++ second) :
    words key = [first.toList, second.toList] := by
  refine words_eq_pair_iff.2 ⟨whole, undivided, ?_⟩
  rw [joined]
  simp

end

/-- A message on the standard topology goes to one queue at most, whatever its key. It goes to the queue
of its first word if there is one more word behind that, which may be empty, and to none otherwise. -/
theorem standard_delivers_by_first_word (key : String) :
    (standard.matchingQueues key).length ≤ 1 ∧
    (standard.isRoutable key = true ↔ ∃ entry ∈ standardQueues, ∃ second : String,
      '.' ∉ second.toList ∧ key = entry.1 ++ "." ++ second) ∧
    (∀ entry ∈ standardQueues, ∀ second : String, '.' ∉ second.toList →
      key = entry.1 ++ "." ++ second → standard.matchingQueues key = [entry.2]) ∧
    (((words key).length ≠ 2 ∨
      ∀ entry ∈ standardQueues, (words key).head? ≠ some entry.1.toList) →
      standard.matchingQueues key = [] ∧ standard.isRoutable key = false) := by
  have delivered (entry : String × String) (known : entry ∈ standardQueues) (second : String)
      (undivided : '.' ∉ second.toList) (joined : key = entry.1 ++ "." ++ second) :
      standard.matchingQueues key = [entry.2] := by
    have split := words_of_joined (patternWords_standard _ known).2 undivided joined
    exact standard_eq_singleton (mem_standard_iff.2 ⟨entry.1, known, _, split⟩)
  refine ⟨?_, ?_, delivered, fun stray => ?_⟩
  · rcases standard_eq key with empty | ⟨queue, found⟩
    · simp [empty]
    · simp [found]
  · rw [isRoutable, Bool.not_eq_true', List.isEmpty_eq_false_iff_exists_mem]
    constructor
    · rintro ⟨queue, member⟩
      obtain ⟨first, known, second, split⟩ := mem_standard_iff.1 member
      obtain ⟨_, undivided, joined⟩ := words_eq_pair_iff.1 split
      refine ⟨_, known, String.ofList second, by simpa using undivided, ?_⟩
      rw [← String.toList_inj, joined]
      simp
    · rintro ⟨entry, known, second, undivided, joined⟩
      rw [delivered entry known second undivided joined]
      exact ⟨_, List.mem_singleton_self _⟩
  · have empty : standard.matchingQueues key = [] := by
      refine List.eq_nil_iff_forall_not_mem.2 fun queue member => ?_
      obtain ⟨first, known, second, split⟩ := mem_standard_iff.1 member
      rw [split] at stray
      rcases stray with length | head
      · exact length rfl
      · exact head _ known rfl
    exact ⟨empty, by rw [isRoutable, empty]; rfl⟩

-- An empty second word is a word, and so is a star.
example : standard.matchingQueues "data." = ["data_queue"] ∧
    standard.matchingQueues "strategy.*" = ["strategy_queue"] ∧
    standard.matchingQueues "data" = [] ∧ standard.matchingQueues "data.a.b" = [] ∧
    standard.matchingQueues "file.upload" = [] := by decide

end Topology

end TopicGateway.Broker
