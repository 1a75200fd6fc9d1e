import TopicGateway.Broker.Pool
import TopicGateway.Proofs.Broker.Memory

/-! Sessions of many connectors on one broker, in any order of steps. A connector is known by the
topology that it declares, so that a step names it by that topology. `Change` says what a step can
do to a pool; `Consistent` is what every pool that can be reached from a fresh one has. -/
namespace TopicGateway.Broker.Pool

variable {p q : Pool}

/-- The pool after these steps, none if one of them uses a session that is not open. -/
def run : Pool → List PoolStep → Option Pool
  | p, [] => some p
  | p, s :: steps =>
    match p.step s with
    | some (_, next) => run next steps
    | none => none

def openCount (sessions : List PoolSession) : Nat :=
  sessions.countP (·.isOpen)

inductive Change (p : Pool) : Pool → Prop where
  | refused : Change p p
  | switchedOpen (on : Bool) : Change p { p with broker.failOpen := on }
  | switchedPublish (on : Bool) : Change p { p with broker.failPublish := on }
  | opened (topology : Topology) (accepts : ¬p.broker.Refuses topology) :
      Change p ⟨p.broker.accept topology, p.sessions ++ [⟨topology, true⟩]⟩
  | sent (session : PoolSession) (member : session ∈ p.sessions) (m : Outgoing) :
      Change p { p with broker.published :=
        p.broker.published ++ [Memory.record session.topology m] }
  | closed (number : Nat) (session : PoolSession) (live : p.openSession? number = some session) :
      Change p ⟨{ p.broker with closed := p.broker.closed + 1 },
        p.sessions.set number { session with isOpen := false }⟩
  | visited (topology : Topology) (accepts : ¬p.broker.Refuses topology) :
      Change p { p with broker := p.broker.visited topology }
  | delivered (topology : Topology) (m : Outgoing) (accepts : ¬p.broker.Refuses topology) :
      Change p { p with broker := p.broker.delivered topology m }

theorem openSession?_eq_some {number : Nat} {session : PoolSession}
    (live : p.openSession? number = some session) :
    p.sessions[number]? = some session ∧ session.isOpen = true := by
  simpa [openSession?, Option.filter_eq_some_iff] using live

theorem step_open {topology : Topology} {reply : PoolReply}
    (taken : p.step (.openSession topology) = some (reply, q)) : Change p q := by
  rcases Memory.openSession_cases topology p.broker with ⟨_, eq⟩ | ⟨_, _, _, _, eq⟩ | ⟨accepts, eq⟩
  all_goals
    simp only [step, eq, Option.some.injEq, Prod.mk.injEq] at taken
    obtain ⟨_, rfl⟩ := taken
  · exact .refused
  · exact .refused
  · exact .opened topology accepts

theorem step_publish {number : Nat} {m : Outgoing} {reply : PoolReply}
    (taken : p.step (.publish number m) = some (reply, q)) : Change p q := by
  obtain ⟨session, live, eq⟩ := Option.map_eq_some_iff.mp taken
  have member := List.mem_of_getElem? (openSession?_eq_some live).1
  rcases Memory.publish_cases session.topology m p.broker with ⟨_, sent⟩ | ⟨_, sent⟩
  all_goals
    simp only [sent, Prod.mk.injEq] at eq
    obtain ⟨_, rfl⟩ := eq
  · exact .refused
  · exact .sent session member m

theorem step_publishFresh {topology : Topology} {m : Outgoing} {reply : PoolReply}
    (taken : p.step (.publishFresh topology m) = some (reply, q)) : Change p q := by
  rcases Memory.publishFresh_cases topology m p.broker with ⟨_, _, eq⟩ | ⟨accepts, _, eq⟩ |
    ⟨accepts, _, eq⟩
  all_goals
    simp only [step, eq, Option.some.injEq, Prod.mk.injEq] at taken
    obtain ⟨_, rfl⟩ := taken
  · exact .refused
  · exact .visited topology accepts
  · exact .delivered topology m accepts

theorem step_change {s : PoolStep} {reply : PoolReply} (taken : p.step s = some (reply, q)) :
    Change p q := by
  cases s with
  | failOpen on =>
    obtain ⟨_, rfl⟩ := Prod.mk.inj (Option.some.inj taken)
    exact .switchedOpen on
  | failPublish on =>
    obtain ⟨_, rfl⟩ := Prod.mk.inj (Option.some.inj taken)
    exact .switchedPublish on
  | openSession topology => exact step_open taken
  | publish number m => exact step_publish taken
  | close number =>
    obtain ⟨session, live, eq⟩ := Option.map_eq_some_iff.mp taken
    obtain ⟨_, rfl⟩ := Prod.mk.inj eq
    exact .closed number session live
  | publishFresh topology m => exact step_publishFresh taken

/-- A record that says what a broker with this topology does with the message. -/
structure Faithful (topology : Topology) (r : Published) : Prop where
  routed : r.routedTo = topology.matchingQueues r.routingKey
  body : r.body = r.envelope.bytes
  messageId : r.properties.messageId = r.envelope.messageId.text
  correlationId : r.properties.correlationId = r.envelope.correlationId

/-- The counters balance, and all sessions and records go by the one declared topology. -/
structure Consistent (p : Pool) : Prop where
  declarations : p.broker.declarations = p.broker.opened
  balance : p.broker.opened = p.broker.closed + openCount p.sessions
  declared : p.broker.declared = none ↔ p.broker.opened = 0
  agreed : ∀ session ∈ p.sessions, p.broker.declared = some session.topology
  recorded : ∀ r ∈ p.broker.published,
    ∃ topology, p.broker.declared = some topology ∧ Faithful topology r

theorem fresh_consistent : Consistent fresh := by
  constructor <;> simp [fresh, Memory.fresh, openCount]

theorem record_faithful (topology : Topology) (m : Outgoing) :
    Faithful topology (Memory.record topology m) :=
  ⟨rfl, rfl, rfl, rfl⟩

/-- An accepted topology is declared from then on, which nothing older contradicts. -/
theorem declared_accept {topology existing : Topology} (accepts : ¬p.broker.Refuses topology)
    (declared : p.broker.declared = some existing) :
    (some topology : Option Topology) = some existing :=
  congrArg some (Memory.declared_eq_of_accepts accepts declared).symm

theorem openCount_append (sessions : List PoolSession) (topology : Topology) :
    openCount (sessions ++ [⟨topology, true⟩]) = openCount sessions + 1 := by
  simp [openCount]

theorem openCount_close {number : Nat} {session : PoolSession}
    (live : p.openSession? number = some session) :
    openCount (p.sessions.set number { session with isOpen := false }) + 1 =
      openCount p.sessions := by
  obtain ⟨at_number, is_open⟩ := openSession?_eq_some live
  obtain ⟨bound, eq⟩ := List.getElem?_eq_some_iff.mp at_number
  have counted : 0 < openCount p.sessions :=
    List.countP_pos_iff.mpr ⟨session, List.mem_of_getElem? at_number, is_open⟩
  simp only [openCount] at counted ⊢
  rw [List.countP_set bound]
  simp only [eq, is_open, ↓reduceIte, Bool.false_eq_true]
  omega

theorem opened_consistent {topology : Topology} (valid : Consistent p)
    (accepts : ¬p.broker.Refuses topology) :
    Consistent ⟨p.broker.accept topology, p.sessions ++ [⟨topology, true⟩]⟩ where
  declarations := congrArg (· + 1) valid.declarations
  balance := by
    have balance := valid.balance
    rw [openCount_append]
    change p.broker.opened + 1 = p.broker.closed + (openCount p.sessions + 1)
    omega
  declared := by simp [Memory.accept]
  agreed := by
    intro session member
    rcases List.mem_append.mp member with old | new
    · exact declared_accept accepts (valid.agreed session old)
    · rw [List.mem_singleton.mp new]
      rfl
  recorded := by
    intro r member
    obtain ⟨existing, declared, faithful⟩ := valid.recorded r member
    exact ⟨existing, declared_accept accepts declared, faithful⟩

theorem visited_consistent {topology : Topology} (valid : Consistent p)
    (accepts : ¬p.broker.Refuses topology) :
    Consistent { p with broker := p.broker.visited topology } where
  declarations := congrArg (· + 1) valid.declarations
  balance := by
    have balance := valid.balance
    change p.broker.opened + 1 = p.broker.closed + 1 + openCount p.sessions
    omega
  declared := by simp [Memory.visited, Memory.accept]
  agreed := fun session member => declared_accept accepts (valid.agreed session member)
  recorded := by
    intro r member
    obtain ⟨existing, declared, faithful⟩ := valid.recorded r member
    exact ⟨existing, declared_accept accepts declared, faithful⟩

/-- A record of a session's own topology may be added wherever that topology is the declared one. -/
theorem published_consistent {topology : Topology} (valid : Consistent p)
    (declared : p.broker.declared = some topology) (m : Outgoing) :
    Consistent { p with broker.published :=
      p.broker.published ++ [Memory.record topology m] } where
  declarations := valid.declarations
  balance := valid.balance
  declared := valid.declared
  agreed := valid.agreed
  recorded := by
    intro r member
    rcases List.mem_append.mp member with old | new
    · exact valid.recorded r old
    · rw [List.mem_singleton.mp new]
      exact ⟨topology, declared, record_faithful topology m⟩

theorem closed_consistent {number : Nat} {session : PoolSession} (valid : Consistent p)
    (live : p.openSession? number = some session) :
    Consistent ⟨{ p.broker with closed := p.broker.closed + 1 },
      p.sessions.set number { session with isOpen := false }⟩ where
  declarations := valid.declarations
  balance := by
    have balance := valid.balance
    have counted := openCount_close live
    dsimp only
    omega
  declared := valid.declared
  agreed := by
    intro other member
    rcases List.mem_or_eq_of_mem_set member with old | rfl
    · exact valid.agreed other old
    · exact valid.agreed session (List.mem_of_getElem? (openSession?_eq_some live).1)
  recorded := valid.recorded

theorem Change.consistent (change : Change p q) (valid : Consistent p) : Consistent q := by
  cases change with
  | refused => exact valid
  | switchedOpen on | switchedPublish on =>
    exact ⟨valid.declarations, valid.balance, valid.declared, valid.agreed, valid.recorded⟩
  | opened topology accepts => exact opened_consistent valid accepts
  | sent session member m => exact published_consistent valid (valid.agreed session member) m
  | closed number session live => exact closed_consistent valid live
  | visited topology accepts => exact visited_consistent valid accepts
  | delivered topology m accepts =>
    exact published_consistent (visited_consistent valid accepts) rfl m

/-- What is declared stays declared, and records are only added behind the others. -/
structure Extends (p q : Pool) : Prop where
  declared : ∀ topology, p.broker.declared = some topology → q.broker.declared = some topology
  published : p.broker.published <+: q.broker.published

theorem Change.extends (change : Change p q) : Extends p q := by
  cases change with
  | refused | switchedOpen on | switchedPublish on | closed number session live =>
    exact ⟨fun _ => id, List.prefix_rfl⟩
  | opened topology accepts | visited topology accepts =>
    exact ⟨fun _ declared => declared_accept accepts declared, List.prefix_rfl⟩
  | sent session member m => exact ⟨fun _ => id, List.prefix_append _ _⟩
  | delivered topology m accepts =>
    exact ⟨fun _ declared => declared_accept accepts declared, List.prefix_append _ _⟩

theorem run_cons_eq_some {s : PoolStep} {steps : List PoolStep}
    (reached : p.run (s :: steps) = some q) :
    ∃ reply middle, p.step s = some (reply, middle) ∧ middle.run steps = some q := by
  simp only [run] at reached
  split at reached
  · rename_i reply middle taken
    exact ⟨reply, middle, taken, reached⟩
  · contradiction

theorem run_preserves {steps : List PoolStep} (valid : Consistent p)
    (reached : p.run steps = some q) : Consistent q := by
  induction steps generalizing p with
  | nil => exact Option.some.inj reached ▸ valid
  | cons s steps ih =>
    obtain ⟨reply, middle, taken, rest⟩ := run_cons_eq_some reached
    exact ih ((step_change taken).consistent valid) rest

theorem run_extends {steps : List PoolStep} (reached : p.run steps = some q) : Extends p q := by
  induction steps generalizing p with
  | nil => exact Option.some.inj reached ▸ ⟨fun _ => id, List.prefix_rfl⟩
  | cons s steps ih =>
    obtain ⟨reply, middle, taken, rest⟩ := run_cons_eq_some reached
    have first := (step_change taken).extends
    have later := ih rest
    exact ⟨fun t declared => later.declared t (first.declared t declared),
      first.published.trans later.published⟩

/-- Whatever connectors do on one broker in whatever order, the pool they reach is consistent, and
what is declared and recorded in it lasts for as long as they go on. -/
theorem reachable_consistent {steps : List PoolStep} (reached : fresh.run steps = some p) :
    Consistent p ∧ ∀ more q, p.run more = some q → Extends p q :=
  ⟨run_preserves fresh_consistent reached, fun _ _ => run_extends⟩

/-- A session publishes, a connector with another topology is turned away, the session closes. -/
theorem conflicting_connectors_consistent :
    let transient : Topology := { Topology.standard with exchange.durable := false }
    let steps : List PoolStep := [.openSession .standard, .publish 0 Memory.emptyMessage,
      .openSession transient, .failPublish true, .close 0]
    let reached : Pool := ⟨⟨some .standard, 1, 1, 1,
      [Memory.record .standard Memory.emptyMessage], false, true⟩, [⟨.standard, false⟩]⟩
    fresh.run steps = some reached ∧ Consistent reached ∧
      ∀ more q, reached.run more = some q → Extends reached q := by
  intro transient steps reached
  have ran : fresh.run steps = some reached := by rfl
  exact ⟨ran, reachable_consistent ran⟩

end TopicGateway.Broker.Pool
