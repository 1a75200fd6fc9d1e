import Mathlib.Algebra.BigOperators.Fin
import TopicGateway.Proofs.Broker.Memory

/-! Many calls that each publish one message on a session of their own, at the same time and on one
broker. A call takes three steps: it opens its session, publishes, and closes. The scheduler picks
any call at any time, and opening and publishing may be made to fail and to work again in between.
`advance_alone` ties the three steps to the call that is made in one piece. -/
namespace TopicGateway.Broker.Interleaving

inductive Progress (ρ : Type) where
  | waiting
  | opened (session : ρ)
  | published (session : ρ) (success : Bool)
  | returned (answer : Except Fault Bool)

/-- The next step of a call. One that has returned takes none. -/
def advance {σ ρ : Type} (c : Connector σ ρ) (m : Outgoing) :
    Progress ρ → σ → Progress ρ × σ
  | .waiting, broker =>
    match c.openSession broker with
    | (.error fault, broker) => (.returned (.error fault), broker)
    | (.ok session, broker) => (.opened session, broker)
  | .opened session, broker =>
    let (success, broker) := c.tryPublish session m broker
    (.published session success, broker)
  | .published session success, broker => (.returned (.ok success), (c.close session broker).2)
  | .returned answer, broker => (.returned answer, broker)

/-- The three steps with nothing between them are the call in one piece. -/
theorem advance_alone {σ ρ : Type} (c : Connector σ ρ) (m : Outgoing) (broker : σ) :
    let first := advance c m .waiting broker
    let second := advance c m first.1 first.2
    advance c m second.1 second.2 =
      (.returned (c.publishFresh m broker).1, (c.publishFresh m broker).2) := by
  rcases opening : c.openSession broker with ⟨_ | session, between⟩
  · simp [advance, Connector.publishFresh, opening]
  · simp [advance, Connector.publishFresh, opening]

structure Call where
  topology : Topology
  message : Outgoing

structure State (n : Nat) where
  broker : Memory
  progress : Fin n → Progress Topology

inductive Event (n : Nat) where
  | advance (i : Fin n)
  | failOpen (on : Bool)
  | failPublish (on : Bool)

variable {n : Nat} (calls : Fin n → Call)

def connector (i : Fin n) : Connector Memory Topology :=
  Memory.connector (calls i).topology

def step (s : State n) : Event n → State n
  | .advance i =>
    let (next, broker) := advance (connector calls i) (calls i).message (s.progress i) s.broker
    ⟨broker, Function.update s.progress i next⟩
  | .failOpen on => { s with broker.failOpen := on }
  | .failPublish on => { s with broker.failPublish := on }

def execute : List (Event n) → State n → State n
  | [], s => s
  | e :: schedule, s => execute schedule (step calls s e)

def initial (broker : Memory) : State n :=
  ⟨broker, fun _ => .waiting⟩

def publishing (s : State n) : Event n → List (Fin n)
  | .advance i =>
    match s.progress i with
    | .opened _ => [i]
    | _ => []
  | _ => []

def publishOrder : List (Event n) → State n → List (Fin n)
  | [], _ => []
  | e :: schedule, s => publishing s e ++ publishOrder schedule (step calls s e)

section Steps

variable {s : State n} {i : Fin n} {session : Topology} {success : Bool}

theorem step_waiting (at_start : s.progress i = .waiting) :
    (∃ fault, (Memory.openSession (calls i).topology s.broker).1 = .error fault ∧
      step calls s (.advance i) =
        ⟨s.broker, Function.update s.progress i (.returned (.error fault))⟩) ∨
    ((Memory.openSession (calls i).topology s.broker).1 = .ok (calls i).topology ∧
      step calls s (.advance i) = ⟨s.broker.accept (calls i).topology,
        Function.update s.progress i (.opened (calls i).topology)⟩) := by
  rcases Memory.openSession_cases (calls i).topology s.broker with ⟨_, eq⟩ |
    ⟨_, existing, _, _, eq⟩ | ⟨_, eq⟩
  · refine .inl ⟨.unavailable "connection refused", by rw [eq], ?_⟩
    simp [step, advance, connector, Memory.connector, at_start, eq]
  · refine .inl ⟨.topologyConflict (Memory.conflictReason existing), by rw [eq], ?_⟩
    simp [step, advance, connector, Memory.connector, at_start, eq]
  · exact .inr ⟨by rw [eq], by simp [step, advance, connector, Memory.connector, at_start, eq]⟩

theorem step_opened (live : s.progress i = .opened session) :
    step calls s (.advance i) =
      ⟨s.broker, Function.update s.progress i (.published session false)⟩ ∨
    step calls s (.advance i) = ⟨{ s.broker with published :=
        s.broker.published ++ [Memory.record session (calls i).message] },
      Function.update s.progress i (.published session true)⟩ := by
  rcases Memory.tryPublish_cases (calls i).topology session (calls i).message s.broker with
    ⟨_, eq⟩ | ⟨_, eq⟩
  · exact .inl (by simp [step, advance, connector, live, eq])
  · exact .inr (by simp [step, advance, connector, live, eq])

theorem step_published (tried : s.progress i = .published session success) :
    step calls s (.advance i) = ⟨{ s.broker with closed := s.broker.closed + 1 },
      Function.update s.progress i (.returned (.ok success))⟩ := by
  simp [step, advance, connector, Memory.connector, Memory.close, tried]

theorem step_returned {answer : Except Fault Bool} (ended : s.progress i = .returned answer) :
    step calls s (.advance i) = s := by
  simp only [step, advance, ended]
  rw [← ended, Function.update_eq_self]

theorem step_other {e : Event n} (other : e ≠ .advance i) :
    (step calls s e).progress i = s.progress i := by
  cases e with
  | advance chosen =>
    have different : i ≠ chosen := fun same => other (congrArg Event.advance same.symm)
    simp [step, Function.update_of_ne different]
  | failOpen on | failPublish on => rfl

theorem execute_other {schedule : List (Event n)} (absent : .advance i ∉ schedule) :
    (execute calls schedule s).progress i = s.progress i := by
  induction schedule generalizing s with
  | nil => rfl
  | cons e schedule ih =>
    have first := step_other calls (s := s) fun eq => absent (eq ▸ List.mem_cons_self)
    exact (ih fun member => absent (List.mem_cons_of_mem _ member)).trans first

theorem execute_append (before after : List (Event n)) :
    execute calls (before ++ after) s = execute calls after (execute calls before s) := by
  induction before generalizing s with
  | nil => rfl
  | cons e before ih => exact ih

end Steps

def Progress.entered {ρ : Type} : Progress ρ → Bool
  | .waiting => false
  | .opened _ | .published _ _ => true
  | .returned answer => answer.isOk

def Progress.left {ρ : Type} : Progress ρ → Bool
  | .returned answer => answer.isOk
  | _ => false

def Progress.tried {ρ : Type} : Progress ρ → Bool
  | .published _ _ => true
  | .returned answer => answer.isOk
  | _ => false

def Progress.succeeded {ρ : Type} : Progress ρ → Bool
  | .published _ success => success
  | .returned (.ok success) => success
  | _ => false

theorem succeeded_returned {ρ : Type} (answer : Except Fault Bool) :
    Progress.succeeded (.returned answer : Progress ρ) = decide (answer = .ok true) := by
  rcases answer with fault | success
  · simp [Progress.succeeded]
  · cases success <;> simp [Progress.succeeded]

def tally (reached : Progress Topology → Bool) (progress : Fin n → Progress Topology) : Nat :=
  ∑ i, (reached (progress i)).toNat

theorem tally_update (reached : Progress Topology → Bool) (progress : Fin n → Progress Topology)
    (i : Fin n) (next : Progress Topology) :
    tally reached (Function.update progress i next) + (reached (progress i)).toNat =
      tally reached progress + (reached next).toNat := by
  have others : ∑ j ∈ Finset.univ.erase i, (reached (Function.update progress i next j)).toNat =
      ∑ j ∈ Finset.univ.erase i, (reached (progress j)).toNat := by
    refine Finset.sum_congr rfl fun j member => ?_
    rw [Function.update_of_ne (Finset.ne_of_mem_erase member)]
  have before := Finset.add_sum_erase Finset.univ (fun j => (reached (progress j)).toNat)
    (Finset.mem_univ i)
  have after := Finset.add_sum_erase Finset.univ
    (fun j => (reached (Function.update progress i next j)).toNat) (Finset.mem_univ i)
  simp only [Function.update_self] at after
  simp only [tally]
  omega

theorem tally_eq_card (reached : Progress Topology → Bool) (progress : Fin n → Progress Topology) :
    tally reached progress = (Finset.univ.filter fun i => reached (progress i) = true).card := by
  rw [Finset.card_filter]
  refine Finset.sum_congr rfl fun i _ => ?_
  cases reached (progress i) <;> rfl

theorem reached_update {α : Type} (reached : Progress Topology → α)
    {progress : Fin n → Progress Topology} {i : Fin n} {next : Progress Topology}
    (same : reached next = reached (progress i)) (j : Fin n) :
    reached (Function.update progress i next j) = reached (progress j) := by
  by_cases eq : j = i
  · subst eq
    rw [Function.update_self, same]
  · rw [Function.update_of_ne eq]

/-- What the broker records of a call that publishes. -/
def sent (i : Fin n) : Published :=
  Memory.record (calls i).topology (calls i).message

/-- The broker's counters and records tell what the calls have done since it was in the state
`start`. The log holds the calls that have taken their publish step, in that order. -/
structure Accounted (start : Memory) (log : List (Fin n)) (s : State n) : Prop where
  opened : s.broker.opened = start.opened + tally Progress.entered s.progress
  closed : s.broker.closed = start.closed + tally Progress.left s.progress
  own : ∀ i session, s.progress i = .opened session → session = (calls i).topology
  nodup : log.Nodup
  logged : ∀ i, i ∈ log ↔ (s.progress i).tried = true
  published : s.broker.published = start.published ++
    (log.filter fun i => (s.progress i).succeeded).map (sent calls)

theorem initial_accounted (start : Memory) : Accounted calls start [] (initial start) := by
  constructor <;> simp [initial, tally, Progress.entered, Progress.left, Progress.tried]

section Accounts

variable {calls} {start : Memory} {log : List (Fin n)} {s : State n} {i : Fin n}

/-- A step that is no publish step leaves the log and the records alone. -/
theorem Accounted.update (accounts : Accounted calls start log s) {next : Progress Topology}
    {broker : Memory}
    (opened : broker.opened + (s.progress i).entered.toNat =
      s.broker.opened + next.entered.toNat)
    (closed : broker.closed + (s.progress i).left.toNat = s.broker.closed + next.left.toNat)
    (own : ∀ session, next = .opened session → session = (calls i).topology)
    (tried : next.tried = (s.progress i).tried)
    (succeeded : next.succeeded = (s.progress i).succeeded)
    (published : broker.published = s.broker.published) :
    Accounted calls start log ⟨broker, Function.update s.progress i next⟩ where
  opened := by
    have counted := tally_update Progress.entered s.progress i next
    have before := accounts.opened
    dsimp only
    omega
  closed := by
    have counted := tally_update Progress.left s.progress i next
    have before := accounts.closed
    dsimp only
    omega
  own := by
    intro j session live
    by_cases eq : j = i
    · subst eq
      exact own session (by simpa using live)
    · exact accounts.own j session (by simpa [Function.update_of_ne eq] using live)
  nodup := accounts.nodup
  logged := by
    intro j
    rw [reached_update Progress.tried tried]
    exact accounts.logged j
  published := by
    simp only [reached_update Progress.succeeded succeeded]
    exact published.trans accounts.published

/-- A call that has yet to publish is not in the log. -/
theorem Accounted.not_logged (accounts : Accounted calls start log s) {session : Topology}
    (live : s.progress i = .opened session) : i ∉ log := by
  intro member
  have tried := (accounts.logged i).1 member
  rw [live] at tried
  cases tried

/-- A publish step puts its call at the end of the log, and a record behind the others if it
succeeds. -/
theorem Accounted.publish (accounts : Accounted calls start log s) {session : Topology}
    (live : s.progress i = .opened session) (success : Bool) {broker : Memory}
    (opened : broker.opened = s.broker.opened) (closed : broker.closed = s.broker.closed)
    (published : broker.published =
      s.broker.published ++ if success then [sent calls i] else []) :
    Accounted calls start (log ++ [i])
      ⟨broker, Function.update s.progress i (.published session success)⟩ where
  opened := by
    have counted := tally_update Progress.entered s.progress i (.published session success)
    have before := accounts.opened
    simp only [live, Progress.entered] at counted
    dsimp only
    omega
  closed := by
    have counted := tally_update Progress.left s.progress i (.published session success)
    have before := accounts.closed
    simp only [live, Progress.left] at counted
    dsimp only
    omega
  own := by
    intro j other live
    by_cases eq : j = i
    · subst eq
      simp at live
    · exact accounts.own j other (by simpa [Function.update_of_ne eq] using live)
  nodup := by
    have absent := accounts.not_logged live
    exact List.nodup_append.mpr ⟨accounts.nodup, by simp, by
      intro a member b single same
      rw [List.mem_singleton.mp single] at same
      exact absent (same ▸ member)⟩
  logged := by
    intro j
    by_cases eq : j = i
    · subst eq
      simp [Progress.tried]
    · simp [accounts.logged, eq]
  published := by
    have absent := accounts.not_logged live
    have kept : log.filter (fun j =>
        (Function.update s.progress i (.published session success) j).succeeded) =
        log.filter fun j => (s.progress j).succeeded := by
      refine List.filter_congr fun j member => ?_
      have different : j ≠ i := fun same => absent (same ▸ member)
      rw [Function.update_of_ne different]
    dsimp only
    rw [published, accounts.published, List.filter_append, kept, List.map_append,
      List.append_assoc]
    cases success <;> simp [Progress.succeeded]

theorem accounted_advance (accounts : Accounted calls start log s) :
    Accounted calls start (log ++ publishing s (.advance i)) (step calls s (.advance i)) := by
  cases at_point : s.progress i with
  | waiting =>
    simp only [publishing, at_point, List.append_nil]
    rcases step_waiting calls at_point with ⟨fault, _, eq⟩ | ⟨_, eq⟩ <;> rw [eq]
    · exact accounts.update (by simp [at_point, Progress.entered, Except.isOk, Except.toBool])
        (by simp [at_point, Progress.left, Except.isOk, Except.toBool]) (by simp)
        (by simp [at_point, Progress.tried, Except.isOk, Except.toBool])
        (by simp [at_point, Progress.succeeded]) rfl
    · exact accounts.update (by simp [at_point, Progress.entered, Memory.accept])
        (by simp [at_point, Progress.left, Memory.accept])
        (fun session live => (Progress.opened.inj live).symm)
        (by simp [at_point, Progress.tried]) (by simp [at_point, Progress.succeeded]) rfl
  | opened session =>
    obtain rfl := accounts.own i session at_point
    simp only [publishing, at_point]
    rcases step_opened calls at_point with eq | eq <;> rw [eq]
    · exact accounts.publish at_point false rfl rfl (by simp)
    · exact accounts.publish at_point true rfl rfl rfl
  | published session success =>
    simp only [publishing, at_point, List.append_nil]
    rw [step_published calls at_point]
    exact accounts.update
      (by simp [at_point, Progress.entered, Except.isOk, Except.toBool])
      (by simp [at_point, Progress.left, Except.isOk, Except.toBool]) (by simp)
      (by simp [at_point, Progress.tried, Except.isOk, Except.toBool])
      (by cases success <;> simp [at_point, Progress.succeeded]) rfl
  | returned answer =>
    simp only [publishing, at_point, List.append_nil]
    rw [step_returned calls at_point]
    exact accounts

theorem accounted_step (accounts : Accounted calls start log s) (e : Event n) :
    Accounted calls start (log ++ publishing s e) (step calls s e) := by
  cases e with
  | advance i => exact accounted_advance accounts
  | failOpen on | failPublish on =>
    simp only [publishing, List.append_nil]
    exact ⟨accounts.opened, accounts.closed, accounts.own, accounts.nodup, accounts.logged,
      accounts.published⟩

theorem accounted_execute (accounts : Accounted calls start log s) (schedule : List (Event n)) :
    Accounted calls start (log ++ publishOrder calls schedule s) (execute calls schedule s) := by
  induction schedule generalizing s log with
  | nil => simpa [publishOrder, execute] using accounts
  | cons e schedule ih =>
    have later := ih (accounted_step accounts e)
    rwa [List.append_assoc] at later

end Accounts

section Answers

variable {s : State n} {i : Fin n} {answer : Except Fault Bool}

theorem returned_execute (ended : s.progress i = .returned answer) (schedule : List (Event n)) :
    (execute calls schedule s).progress i = .returned answer := by
  induction schedule generalizing s with
  | nil => exact ended
  | cons e schedule ih =>
    refine ih ?_
    by_cases own : e = .advance i
    · rw [own, step_returned calls ended]
      exact ended
    · rw [step_other calls own, ended]

theorem entered_step (inside : (s.progress i).entered = true) (e : Event n) :
    ((step calls s e).progress i).entered = true := by
  by_cases own : e = .advance i
  · subst own
    cases at_point : s.progress i with
    | waiting => simp [at_point, Progress.entered] at inside
    | opened session =>
      rcases step_opened calls at_point with eq | eq <;> simp [eq, Progress.entered]
    | published session success =>
      simp [step_published calls at_point, Progress.entered, Except.isOk, Except.toBool]
    | returned answer => rwa [step_returned calls at_point]
  · rwa [step_other calls own]

theorem entered_execute (inside : (s.progress i).entered = true) (schedule : List (Event n)) :
    ((execute calls schedule s).progress i).entered = true := by
  induction schedule generalizing s with
  | nil => exact inside
  | cons e schedule ih => exact ih (entered_step calls inside e)

/-- A call is refused for its topology exactly if the broker does so at the call's open step. -/
theorem conflict_iff_at_open {before after : List (Event n)} (start : Memory)
    (first : .advance i ∉ before)
    (ended : (execute calls (before ++ .advance i :: after) (initial start)).progress i =
      .returned answer) :
    (∃ reason, answer = .error (.topologyConflict reason)) ↔
      (execute calls before (initial start)).broker.failOpen = false ∧
        (execute calls before (initial start)).broker.Conflicts (calls i).topology := by
  have at_start : (execute calls before (initial start)).progress i = .waiting :=
    execute_other calls first
  rw [execute_append] at ended
  rw [← Memory.openSession_conflict_iff]
  rcases step_waiting calls at_start with ⟨fault, opening, eq⟩ | ⟨opening, eq⟩
  · have refused : (step calls (execute calls before (initial start)) (.advance i)).progress i =
        .returned (.error fault) := by simp [eq]
    have same : answer = .error fault :=
      Progress.returned.inj (ended.symm.trans (returned_execute calls refused after))
    simp [same, opening]
  · have inside : ((step calls (execute calls before (initial start)) (.advance i)).progress
        i).entered = true := by simp [eq, Progress.entered]
    have served := entered_execute calls inside after
    rw [show (execute calls after (step calls _ (.advance i))).progress i = _ from ended] at served
    constructor
    · rintro ⟨reason, rfl⟩
      cases served
    · rintro ⟨reason, refused⟩
      rw [opening] at refused
      cases refused

/-- A call that has returned has had an open step. -/
theorem exists_open_step {schedule : List (Event n)} (start : Memory)
    (ended : (execute calls schedule (initial start)).progress i = .returned answer) :
    ∃ before after, schedule = before ++ .advance i :: after ∧ .advance i ∉ before := by
  apply List.eq_append_cons_of_mem
  apply Classical.byContradiction
  intro absent
  rw [execute_other calls absent] at ended
  cases ended

end Answers

/-- When all calls have returned, in whatever order they took their steps: the broker has opened and
closed as many sessions as calls were served; it has recorded the messages of the calls that
succeeded, each once and with its own key, envelope and body, in the order of their publish steps; and
the calls that were refused for their topology are those that met another one at their open step. -/
theorem concurrent_calls_accounted (start : Memory) (schedule : List (Event n))
    (answers : Fin n → Except Fault Bool)
    (ended : ∀ i, (execute calls schedule (initial start)).progress i = .returned (answers i)) :
    let final := (execute calls schedule (initial start)).broker
    let served := Finset.univ.filter fun i => (answers i).isOk = true
    let order := (publishOrder calls schedule (initial start)).filter fun i =>
      answers i = .ok true
    final.opened = start.opened + served.card ∧ final.closed = start.closed + served.card ∧
      final.published = start.published ++ order.map (sent calls) ∧
      (∀ i, Memory.IsRecord (calls i).topology (calls i).message (sent calls i)) ∧
      order.Nodup ∧ (∀ i, i ∈ order ↔ answers i = .ok true) ∧
      ∀ i, ∃ before after, schedule = before ++ .advance i :: after ∧ .advance i ∉ before ∧
        let met := (execute calls before (initial start)).broker
        ((∃ reason, answers i = .error (.topologyConflict reason)) ↔
          met.failOpen = false ∧ met.Conflicts (calls i).topology) := by
  intro final served order
  have accounts := accounted_execute (initial_accounted calls start) schedule
  have entered := accounts.opened
  have left := accounts.closed
  have published := accounts.published
  rw [tally_eq_card] at entered left
  simp only [ended] at entered left published
  simp only [succeeded_returned, List.nil_append] at published
  refine ⟨entered, left, published, fun i => Memory.isRecord_record _ _, accounts.nodup.filter _,
    ?_, ?_⟩
  · intro i
    have logged := accounts.logged i
    simp only [ended, Progress.tried, List.nil_append] at logged
    simp only [order, List.mem_filter, decide_eq_true_eq, logged]
    exact ⟨fun both => both.2, fun success => ⟨by rw [success]; rfl, success⟩⟩
  · intro i
    obtain ⟨before, after, split, first⟩ := exists_open_step calls start (ended i)
    exact ⟨before, after, split, first, conflict_iff_at_open calls start first (split ▸ ended i)⟩

/-- Two calls of one topology and one of another. The second opens after the first and publishes before
it; the third is turned away in between. -/
theorem three_calls_accounted :
    let transient : Topology := { Topology.standard with exchange.durable := false }
    let calls : Fin 3 → Call := fun i =>
      if i = 0 then ⟨.standard, Memory.under "data.a"⟩
      else if i = 1 then ⟨.standard, Memory.under "data.b"⟩
      else ⟨transient, Memory.under "data.c"⟩
    let schedule : List (Event 3) := [.advance 0, .advance 1, .advance 1, .advance 2, .advance 0,
      .failPublish true, .advance 1, .advance 0]
    let answers : Fin 3 → Except Fault Bool := fun i =>
      if i = 2 then .error (.topologyConflict (Memory.conflictReason .standard)) else .ok true
    let final := (execute calls schedule (initial .fresh)).broker
    (∀ i, (execute calls schedule (initial .fresh)).progress i = .returned (answers i)) ∧
      final.opened = 2 ∧ final.closed = 2 ∧ final.published = [sent calls 1, sent calls 0] ∧
      (sent calls 1).routingKey = "data.b" ∧ (sent calls 0).routingKey = "data.a" := by
  intro transient calls schedule answers final
  have ended : ∀ i, (execute calls schedule (initial .fresh)).progress i =
      .returned (answers i) := by
    intro i
    match i with
    | 0 | 1 | 2 => rfl
  obtain ⟨opened, closed, published, records, _⟩ :=
    concurrent_calls_accounted calls .fresh schedule answers ended
  exact ⟨ended, opened, closed, published, (records 1).routingKey, (records 0).routingKey⟩

end TopicGateway.Broker.Interleaving
