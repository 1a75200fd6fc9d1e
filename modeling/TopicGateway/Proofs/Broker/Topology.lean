import Mathlib.Data.List.Induction
import Mathlib.Data.List.Perm.Basic
import TopicGateway.Broker.Topology

/-! Which queues a message goes to, and in which order. The bindings are gone through from the first to
the last; one that matches adds its queue behind those that were found, unless it is among them. What
holds after each of them is `Collected`. -/
namespace TopicGateway.Broker

def Binding.Brings (key queue : String) (b : Binding) : Prop :=
  b.queue = queue ∧ topicMatches b.pattern key = true

instance (key queue : String) : DecidablePred (Binding.Brings key queue) :=
  fun _ => inferInstanceAs (Decidable (_ ∧ _))

/-- How many bindings stand before the first one that brings messages under this key to this queue. -/
def firstBinding (bindings : List Binding) (key queue : String) : Nat :=
  bindings.findIdx fun b => b.Brings key queue

/-- The queues that bindings lead to, in the order of their first bindings. -/
structure Collected (bindings : List Binding) (key : String) (queues : List String) : Prop where
  found : ∀ queue, queue ∈ queues ↔ ∃ b ∈ bindings, b.Brings key queue
  ordered : queues.Pairwise fun p q => firstBinding bindings key p < firstBinding bindings key q

def Topology.bound (t : Topology) (bindings : List Binding) : Topology :=
  { t with bindings := bindings }

section Adding

variable {key queue : String} {queues : List String} {bindings : List Binding} {b : Binding}

theorem firstBinding_lt_iff : firstBinding bindings key queue < bindings.length ↔
    ∃ b ∈ bindings, b.Brings key queue := by
  rw [firstBinding, List.findIdx_lt_length]
  simp only [decide_eq_true_eq]

theorem firstBinding_append (bindings later : List Binding) (key queue : String) :
    firstBinding (bindings ++ later) key queue =
      if firstBinding bindings key queue < bindings.length then firstBinding bindings key queue
      else firstBinding later key queue + bindings.length :=
  List.findIdx_append

theorem brought_append_singleton : (∃ c ∈ bindings ++ [b], c.Brings key queue) ↔
    (∃ c ∈ bindings, c.Brings key queue) ∨ b.Brings key queue := by
  simp only [List.mem_append, List.mem_singleton, or_and_right, exists_or, exists_eq_left]

/-- Queues that were found keep their order. -/
theorem Collected.kept (collected : Collected bindings key queues) (later : List Binding) :
    queues.Pairwise fun p q =>
      firstBinding (bindings ++ later) key p < firstBinding (bindings ++ later) key q := by
  have same {queue : String} (member : queue ∈ queues) :
      firstBinding (bindings ++ later) key queue = firstBinding bindings key queue := by
    rw [firstBinding_append, if_pos (firstBinding_lt_iff.2 ((collected.found queue).1 member))]
  refine collected.ordered.imp_of_mem fun {p q} left right before => ?_
  rw [same left, same right]
  exact before

theorem Collected.idle (collected : Collected bindings key queues)
    (idle : ∀ queue, b.Brings key queue → queue ∈ queues) :
    Collected (bindings ++ [b]) key queues where
  found := by
    intro queue
    rw [brought_append_singleton, ← collected.found]
    exact (or_iff_left_of_imp (idle queue)).symm
  ordered := collected.kept [b]

theorem Collected.new (collected : Collected bindings key queues) (brings : b.Brings key queue)
    (new : queue ∉ queues) : Collected (bindings ++ [b]) key (queues ++ [queue]) where
  found := by
    intro other
    have last : b.Brings key other ↔ other = queue := by
      constructor
      · exact fun brought => brought.1.symm.trans brings.1
      · rintro rfl
        exact brings
    rw [brought_append_singleton, ← collected.found, last, List.mem_append, List.mem_singleton]
  ordered := by
    rw [List.pairwise_append]
    refine ⟨collected.kept [b], List.pairwise_singleton _ _, fun p before q last => ?_⟩
    obtain rfl := List.mem_singleton.1 last
    -- The queue found before has its first binding among the old ones, and the new queue has not.
    have inside := firstBinding_lt_iff.2 ((collected.found p).1 before)
    have outside : ¬firstBinding bindings key q < bindings.length := fun found =>
      new ((collected.found q).2 (firstBinding_lt_iff.1 found))
    rw [firstBinding_append, if_pos inside, firstBinding_append, if_neg outside]
    omega

end Adding

namespace Topology

variable (t : Topology) (key : String)

/-- What a binding at the end adds. -/
theorem matchingQueues_add (bindings : List Binding) (b : Binding) :
    (t.bound (bindings ++ [b])).matchingQueues key =
      (t.bound bindings).matchingQueues key ++
        if topicMatches b.pattern key = true ∧ b.queue ∉ (t.bound bindings).matchingQueues key then
          [b.queue] else [] := by
  simp only [matchingQueues, bound, List.filter_append, List.map_append, List.eraseDups_append,
    List.mem_eraseDups]
  by_cases fits : topicMatches b.pattern key = true
  · by_cases old : b.queue ∈ (bindings.filter fun b => topicMatches b.pattern key).map Binding.queue
    · simp [fits, old, List.removeAll]
    · simp [fits, old, List.removeAll, List.eraseDups_cons]
  · simp [fits, List.removeAll]

theorem collected_matchingQueues (bindings : List Binding) :
    Collected bindings key ((t.bound bindings).matchingQueues key) := by
  induction bindings using List.reverseRecOn with
  | nil => exact ⟨fun queue => by simp [matchingQueues, bound], .nil⟩
  | append_singleton bindings b ih =>
    rw [matchingQueues_add]
    split
    · next new => exact ih.new ⟨rfl, new.1⟩ new.2
    · next old =>
      rw [List.append_nil]
      refine ih.idle fun queue brings => ?_
      obtain ⟨rfl, fits⟩ := brings
      by_contra new
      exact old ⟨fits, new⟩

variable {t key}

theorem collected (t : Topology) (key : String) :
    Collected t.bindings key (t.matchingQueues key) :=
  collected_matchingQueues t key t.bindings

theorem mem_matchingQueues_iff {queue : String} : queue ∈ t.matchingQueues key ↔
    ∃ b ∈ t.bindings, b.queue = queue ∧ topicMatches b.pattern key = true :=
  (t.collected key).found queue

theorem nodup_matchingQueues (t : Topology) (key : String) : (t.matchingQueues key).Nodup := by
  refine (t.collected key).ordered.imp fun {p q} before same => ?_
  rw [same] at before
  exact Nat.lt_irrefl _ before

theorem isRoutable_iff (t : Topology) (key : String) :
    t.isRoutable key = true ↔ ∃ b ∈ t.bindings, topicMatches b.pattern key = true := by
  have some : t.isRoutable key = true ↔ ∃ queue, queue ∈ t.matchingQueues key := by
    rw [isRoutable, Bool.not_eq_true', List.isEmpty_eq_false_iff_exists_mem]
  rw [some]
  constructor
  · rintro ⟨queue, member⟩
    obtain ⟨b, bound, _, fits⟩ := mem_matchingQueues_iff.1 member
    exact ⟨b, bound, fits⟩
  · rintro ⟨b, bound, fits⟩
    exact ⟨b.queue, mem_matchingQueues_iff.2 ⟨b, bound, rfl, fits⟩⟩

/-- Of two bindings that are the same the second one adds nothing. -/
theorem matchingQueues_repeated (t : Topology) (key : String) (before between after : List Binding)
    (b : Binding) :
    (t.bound (before ++ b :: between ++ b :: after)).matchingQueues key =
      (t.bound (before ++ b :: between ++ after)).matchingQueues key := by
  have again : (t.bound (before ++ b :: between ++ [b])).matchingQueues key =
      (t.bound (before ++ b :: between)).matchingQueues key := by
    rw [matchingQueues_add, if_neg, List.append_nil]
    rintro ⟨fits, new⟩
    exact new (mem_matchingQueues_iff.2 ⟨b, by simp [bound], rfl, fits⟩)
  induction after using List.reverseRecOn with
  | nil => rw [List.append_nil, again]
  | append_singleton after last ih =>
    rw [← List.cons_append, ← List.append_assoc, ← List.append_assoc, matchingQueues_add,
      matchingQueues_add, ih]

theorem matchingQueues_perm {bindings : List Binding} (same : bindings.Perm t.bindings) :
    ((t.bound bindings).matchingQueues key).Perm (t.matchingQueues key) := by
  refine (List.perm_ext_iff_of_nodup (nodup_matchingQueues _ key) (nodup_matchingQueues t key)).2
    fun queue => ?_
  rw [mem_matchingQueues_iff, mem_matchingQueues_iff]
  simp only [bound, same.mem_iff]

theorem matchingQueues_subset (t : Topology) (key : String) (before after : List Binding)
    (b : Binding) :
    (t.bound (before ++ after)).matchingQueues key ⊆
      (t.bound (before ++ b :: after)).matchingQueues key := by
  intro queue member
  obtain ⟨c, inside, brings⟩ := mem_matchingQueues_iff.1 member
  have kept : c ∈ before ++ b :: after := by
    rcases List.mem_append.1 inside with front | back
    · exact List.mem_append_left _ front
    · exact List.mem_append_right _ (List.mem_cons_of_mem b back)
  exact mem_matchingQueues_iff.2 ⟨c, kept, brings⟩

/-- A message goes to the queues that some binding brings it to, each once and in the order of their
first bindings, and it finds one just when some binding matches. So a binding that is there before adds
nothing, the order of the bindings decides nothing but the order of the queues, and a further binding
takes no queue away; at the end of the others it leaves them where they are. -/
theorem queues_by_first_binding (t : Topology) (key : String) :
    (t.matchingQueues key).Nodup ∧
    (∀ queue, queue ∈ t.matchingQueues key ↔
      ∃ b ∈ t.bindings, b.queue = queue ∧ topicMatches b.pattern key = true) ∧
    (t.matchingQueues key).Pairwise (fun p q =>
      firstBinding t.bindings key p < firstBinding t.bindings key q) ∧
    (t.isRoutable key = true ↔ ∃ b ∈ t.bindings, topicMatches b.pattern key = true) ∧
    (∀ before between after b,
      (t.bound (before ++ b :: between ++ b :: after)).matchingQueues key =
        (t.bound (before ++ b :: between ++ after)).matchingQueues key) ∧
    (∀ bindings, bindings.Perm t.bindings →
      ((t.bound bindings).matchingQueues key).Perm (t.matchingQueues key)) ∧
    (∀ before after b, (t.bound (before ++ after)).matchingQueues key ⊆
      (t.bound (before ++ b :: after)).matchingQueues key) ∧
    ∀ b, t.matchingQueues key <+: (t.bound (t.bindings ++ [b])).matchingQueues key := by
  refine ⟨nodup_matchingQueues t key, fun queue => mem_matchingQueues_iff, (t.collected key).ordered,
    isRoutable_iff t key, matchingQueues_repeated t key, fun bindings => matchingQueues_perm,
    matchingQueues_subset t key, fun b => ?_⟩
  have added := matchingQueues_add t key t.bindings b
  exact ⟨_, added.symm⟩

-- The first binding of `b` matches no key with two words, so `b` comes behind `a` for `x.y`.
example :
    let t : Topology := { standard with
      bindings := [⟨"b", "x"⟩, ⟨"a", "*.y"⟩, ⟨"b", "x.#"⟩, ⟨"a", "#"⟩] }
    t.matchingQueues "x.y" = ["a", "b"] ∧ t.matchingQueues "x" = ["b", "a"] ∧
      t.matchingQueues "y" = ["a"] := by decide

end Topology

end TopicGateway.Broker
