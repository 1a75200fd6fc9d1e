import TopicGateway.Config.Resolve
import TopicGateway.Proofs.Number.Whole

/-! What an environment resolves to, variable by variable, and which of the checks refuses one that
resolves to nothing. The checks are made in a fixed order, and the first one that fails is reported. -/
namespace TopicGateway.Config

open Broker (Access)
open Net (SocketAddress)

section Reading

variable {α : Type}

/-- A variable that is set stands for what its text means, blanks around it ignored; one that is not
set stands for the standard value. -/
def Stated (standard : α) (Means : String → α → Prop) : Option String → α → Prop
  | none, a => a = standard
  | some text, a => Means (Text.trim text) a

/-- A text is read as what it means. One that means nothing is refused, and `Says` says with what. -/
inductive Reads (Means : String → α → Prop) (Says : String → Fault → Prop) (text : String) :
    Except Fault α → Prop
  | ok {a : α} (means : Means text a) : Reads Means Says text (.ok a)
  | error {fault : Fault} (meaningless : ∀ a, ¬Means text a) (said : Says text fault) :
    Reads Means Says text (.error fault)

def Refuses (Means : String → α → Prop) (Says : String → Fault → Prop) (value : Option String)
    (fault : Fault) : Prop :=
  ∃ text, value = some text ∧ (∀ a, ¬Means (Text.trim text) a) ∧ Says (Text.trim text) fault

end Reading

def MeansPort (text : String) (port : UInt16) : Prop :=
  Whole.Writes text port.toNat

def SaysPort (name text : String) (fault : Fault) : Prop :=
  ∃ e, Whole.parse16 text = .error e ∧ fault = .variable name text (.number e)

theorem parsePort_reads (name text : String) :
    Reads MeansPort (SaysPort name) (Text.trim text) (parsePort name text) := by
  rw [parsePort]
  cases read : Whole.parse16 (Text.trim text) with
  | ok port => exact .ok ((Whole.parse16_eq_ok_iff _).1 read)
  | error e =>
    refine .error (fun port writes => ?_) ⟨e, read, rfl⟩
    cases read.symm.trans ((Whole.parse16_eq_ok_iff _).2 writes)

def MeansAddress (text : String) (address : SocketAddress) : Prop :=
  SocketAddress.parse? text = some address

def SaysAddress (text : String) (fault : Fault) : Prop :=
  fault = .variable addressVariable text .address

theorem parseAddress_reads (text : String) :
    Reads MeansAddress SaysAddress (Text.trim text) (parseAddress text) := by
  unfold parseAddress
  cases read : SocketAddress.parse? (Text.trim text) with
  | some address => exact .ok read
  | none =>
    refine .error (fun address given => ?_) rfl
    cases read.symm.trans given

def MeansDefaults (files : Files) (path : String) (defaults : Message.Defaults) : Prop :=
  DefaultsFile.load files path = .ok defaults

def SaysDefaults (files : Files) (path : String) (fault : Fault) : Prop :=
  ∃ cause, DefaultsFile.load files path = .error cause ∧ fault = .defaults cause

theorem defaults_reads (files : Files) (path : String) :
    Reads (MeansDefaults files) (SaysDefaults files) (Text.trim path)
      (match DefaultsFile.load files (Text.trim path) with
      | .ok d => .ok d
      | .error e => .error (.defaults e)) := by
  cases loaded : DefaultsFile.load files (Text.trim path) with
  | ok defaults => exact .ok loaded
  | error cause =>
    refine .error (fun defaults given => ?_) ⟨cause, loaded, rfl⟩
    cases loaded.symm.trans given

def MeansPolicy (text : String) (policy : UnroutablePolicy) : Prop :=
  Text.lowerAscii text = policy.name

def SaysPolicy (text : String) (fault : Fault) : Prop :=
  fault = .policy
    ("unrecognised policy '" ++ Text.lowerAscii text ++ "'; expected one of: warn | reject")

theorem policy_reads (text : String) :
    Reads MeansPolicy SaysPolicy (Text.trim text)
      (match UnroutablePolicy.parse text with
      | .ok p => .ok p
      | .error reason => .error (.policy reason)) := by
  rw [UnroutablePolicy.parse]
  by_cases warn : Text.lowerAscii (Text.trim text) = "warn"
  · simp only [warn, ↓reduceIte]
    exact .ok warn
  · by_cases reject : Text.lowerAscii (Text.trim text) = "reject"
    · simp only [reject, ↓reduceIte]
      exact .ok reject
    · simp only [warn, reject, ↓reduceIte]
      refine .error (fun policy named => ?_) rfl
      cases policy
      · exact warn named
      · exact reject named

/-- Where to listen: the address that is set, or else all hosts at the port that is set. -/
def Bound (env : Environment) (bind : SocketAddress) : Prop :=
  match env.get addressVariable with
  | some text => MeansAddress (Text.trim text) bind
  | none => ∃ port, Stated 5000 MeansPort (env.get portVariable) port ∧ bind = .v4 ⟨0, 0, 0, 0⟩ port

/-- The broker's settings of an environment, each by its own variable. -/
structure BrokerResolved (env : Environment) (a : Access) : Prop where
  host : a.host = ((env.get hostVariable).map Text.trim).getD "localhost"
  port : Stated 5672 MeansPort (env.get brokerPortVariable) a.port
  vhost : a.vhost = ((env.get vhostVariable).map Text.trim).getD "/"
  username : a.username = (env.get userVariable).getD "guest"
  password : a.password = (env.get passwordVariable).getD "guest"
  heartbeat : a.heartbeat = 600
  blockedTimeout : a.blockedTimeout = 300
  connectionName : a.connectionName = "bgw-gateway"

/-- The settings of an environment, each by its own variable. A connection can be made with them. -/
structure Resolved (env : Environment) (files : Files) (s : Settings) : Prop where
  broker : BrokerResolved env s.broker
  bind : Bound env s.bind
  defaults : Stated .builtIn (MeansDefaults files) (env.get defaultsVariable) s.defaults
  policy : Stated .warn MeansPolicy (env.get policyVariable) s.policy
  usable : s.validate = .ok ()

/-- A name that is set is not blank, so trimmed it is not blank either. -/
theorem blank_name (env : Environment) (name : String) {standard : String}
    (visible : Text.blank standard = false) :
    Text.blank (((env.get name).map Text.trim).getD standard) = false := by
  cases given : env.get name with
  | none => exact visible
  | some text => exact Text.blank_trim (Text.nonBlank_eq_some_iff.1 given).2

/-- Nothing but a port of zero can keep a connection from being made. -/
theorem BrokerResolved.unusable?_eq {env : Environment} {a : Access} (resolved : BrokerResolved env a) :
    unusable? a = if a.port = 0 then some .zeroPort else none := by
  have host : Text.blank a.host = false := by
    rw [resolved.host]
    exact blank_name env hostVariable (by decide)
  have vhost : Text.blank a.vhost = false := by
    rw [resolved.vhost]
    exact blank_name env vhostVariable (by decide)
  have named : a.vhost.isEmpty = false := by
    refine Bool.eq_false_iff.2 fun empty => ?_
    rw [String.isEmpty_iff.1 empty] at vhost
    exact absurd vhost (by decide)
  have heartbeat : a.heartbeat ≠ 0 := by
    rw [resolved.heartbeat]
    decide
  have blockedTimeout : a.blockedTimeout ≠ 0 := by
    rw [resolved.blockedTimeout]
    decide
  simp only [unusable?, host, named, heartbeat, blockedTimeout, Bool.false_eq_true, ↓reduceIte]

inductive Check where
  | brokerPort
  | bind
  | defaults
  | policy
  | usablePort
  deriving DecidableEq

/-- A variable that is set has a meaning. -/
def Meant {α : Type} (Means : String → α → Prop) (value : Option String) : Prop :=
  ∀ text, value = some text → ∃ a, Means (Text.trim text) a

theorem Stated.meant {α : Type} {standard a : α} {Means : String → α → Prop} {value : Option String}
    (stated : Stated standard Means value a) : Meant Means value := by
  rintro text rfl
  exact ⟨a, stated⟩

theorem Refuses.not_meant {α : Type} {Means : String → α → Prop} {Says : String → Fault → Prop}
    {value : Option String} {fault : Fault} (refuses : Refuses Means Says value fault) :
    ¬Meant Means value := by
  obtain ⟨text, given, meaningless, _⟩ := refuses
  intro meant
  obtain ⟨a, means⟩ := meant text given
  exact meaningless a means

namespace Check

def all : List Check := [.brokerPort, .bind, .defaults, .policy, .usablePort]

variable (env : Environment) (files : Files)

def Passes : Check → Prop
  | .brokerPort => Meant MeansPort (env.get brokerPortVariable)
  | .bind =>
    match env.get addressVariable with
    | some text => Meant MeansAddress (some text)
    | none => Meant MeansPort (env.get portVariable)
  | .defaults => Meant (MeansDefaults files) (env.get defaultsVariable)
  | .policy => Meant MeansPolicy (env.get policyVariable)
  | .usablePort => ∀ text, env.get brokerPortVariable = some text → ¬MeansPort (Text.trim text) 0

/-- The fault of an environment that fails a check. -/
def Reports (fault : Fault) : Check → Prop
  | .brokerPort => Refuses MeansPort (SaysPort brokerPortVariable) (env.get brokerPortVariable) fault
  | .bind =>
    match env.get addressVariable with
    | some text => Refuses MeansAddress SaysAddress (some text) fault
    | none => Refuses MeansPort (SaysPort portVariable) (env.get portVariable) fault
  | .defaults => Refuses (MeansDefaults files) (SaysDefaults files) (env.get defaultsVariable) fault
  | .policy => Refuses MeansPolicy SaysPolicy (env.get policyVariable) fault
  | .usablePort => (∃ text, env.get brokerPortVariable = some text ∧ MeansPort (Text.trim text) 0) ∧
    fault = .unusable .zeroPort

/-- The variable or the file that a check is about. -/
def subject : Check → String
  | .brokerPort => brokerPortVariable
  | .bind => if (env.get addressVariable).isSome then addressVariable else portVariable
  | .defaults => ((env.get defaultsVariable).map Text.trim).getD ""
  | .policy => policyVariable
  | .usablePort => brokerPortVariable

variable {env files} {check : Check} {fault : Fault}

theorem Reports.fails (reports : check.Reports env files fault) : ¬check.Passes env files := by
  cases check with
  | brokerPort => exact Refuses.not_meant reports
  | bind =>
    rw [Reports] at reports
    rw [Passes]
    split at reports
    · exact reports.not_meant
    · exact reports.not_meant
  | defaults => exact Refuses.not_meant reports
  | policy => exact Refuses.not_meant reports
  | usablePort =>
    obtain ⟨⟨text, given, zero⟩, _⟩ := reports
    intro passes
    exact passes text given zero

end Check

theorem Bound.passes {env : Environment} {files : Files} {bind : SocketAddress}
    (bound : Bound env bind) : Check.bind.Passes env files := by
  rw [Bound] at bound
  rw [Check.Passes]
  split at bound
  · rintro _ ⟨⟩
    exact ⟨bind, bound⟩
  · obtain ⟨port, stated, _⟩ := bound
    exact stated.meant

def Fault.Mentions (fault : Fault) (subject : String) : Prop :=
  ∃ before after inner, fault.causes = (before ++ subject ++ after) :: inner

theorem Fault.Mentions.message {fault : Fault} {subject : String} (mentions : fault.Mentions subject) :
    ∃ before after, fault.message = before ++ subject ++ after := by
  obtain ⟨before, after, inner, causes⟩ := mentions
  refine ⟨before, ": ".intercalate (after :: inner), ?_⟩
  rw [Fault.message, causes, String.intercalate_cons_append]

theorem SaysPort.mentions {name text : String} {fault : Fault} (said : SaysPort name text fault) :
    fault.Mentions name := by
  obtain ⟨e, _, rfl⟩ := said
  refine ⟨Fault.lead, "='" ++ text ++ "': " ++ e.message, [], ?_⟩
  simp only [Fault.causes, BadValue.message, String.append_assoc]

theorem SaysAddress.mentions {text : String} {fault : Fault} (said : SaysAddress text fault) :
    fault.Mentions addressVariable := by
  cases said
  refine ⟨Fault.lead, "='" ++ text ++ "': " ++ BadValue.address.message, [], ?_⟩
  simp only [Fault.causes, String.append_assoc]

theorem SaysPolicy.mentions {text : String} {fault : Fault} (said : SaysPolicy text fault) :
    fault.Mentions policyVariable := by
  cases said
  exact ⟨Fault.lead, "", [_], by rw [Fault.causes, String.append_empty]⟩

/-- A file that cannot be read and one that cannot be understood are both named. -/
theorem SaysDefaults.mentions {files : Files} {path : String} {fault : Fault}
    (said : SaysDefaults files path fault) : fault.Mentions path := by
  obtain ⟨cause, loaded, rfl⟩ := said
  rw [DefaultsFile.load] at loaded
  split at loaded
  · cases loaded
    exact ⟨"read defaults file failed: ", "", [_], by
      rw [Fault.causes, DefaultsFault.causes, String.append_empty]⟩
  · split at loaded
    · cases loaded
      exact ⟨"parse defaults yaml failed: ", "", [_], by
        rw [Fault.causes, DefaultsFault.causes, String.append_empty]⟩
    · cases loaded

theorem Check.Reports.mentions {env : Environment} {files : Files} {check : Check} {fault : Fault}
    (reports : check.Reports env files fault) : fault.Mentions (check.subject env) := by
  cases check with
  | brokerPort =>
    obtain ⟨_, _, _, said⟩ := reports
    exact said.mentions
  | bind =>
    rw [Check.Reports] at reports
    rw [Check.subject]
    split at reports
    next set =>
      obtain ⟨_, _, _, said⟩ := reports
      rw [set]
      exact said.mentions
    next unset =>
      obtain ⟨_, _, _, said⟩ := reports
      rw [unset]
      exact said.mentions
  | defaults =>
    obtain ⟨path, set, _, said⟩ := reports
    rw [Check.subject, set]
    exact said.mentions
  | policy =>
    obtain ⟨_, _, _, said⟩ := reports
    exact said.mentions
  | usablePort =>
    obtain ⟨_, rfl⟩ := reports
    refine ⟨Fault.lead, " must be non-zero", [], ?_⟩
    simp only [Fault.causes, Unusable.text, Check.subject, String.append_assoc]

section Deciding

variable (env : Environment) (files : Files) {α β : Type}

/-- A check passes and leaves a value, or it fails and is reported. -/
def Check.Decides (check : Check) (Spec : α → Prop) (result : Except Fault α) : Prop :=
  (∃ a, result = .ok a ∧ Spec a ∧ check.Passes env files) ∨
  ∃ fault, result = .error fault ∧ check.Reports env files fault

/-- The checks leave a value, or the first one that fails is reported. -/
def Decided (checks : List Check) (Spec : α → Prop) (result : Except Fault α) : Prop :=
  (∃ a, result = .ok a ∧ Spec a) ∨
  ∃ before check after fault, checks = before ++ check :: after ∧
    (∀ c ∈ before, c.Passes env files) ∧ check.Reports env files fault ∧ result = .error fault

variable {env files} {Spec : α → Prop} {Rest : β → Prop} {check : Check} {checks : List Check}

theorem Check.Decides.map {result : Except Fault α} {f : α → β}
    (decides : check.Decides env files Spec result) (kept : ∀ a, Spec a → Rest (f a)) :
    check.Decides env files Rest (result.map f) := by
  rcases decides with ⟨a, rfl, spec, passes⟩ | ⟨fault, rfl, reports⟩
  · exact .inl ⟨f a, rfl, kept a spec, passes⟩
  · exact .inr ⟨fault, rfl, reports⟩

section Variables

variable {Means : String → α → Prop} {Says : String → Fault → Prop}

theorem Reads.decides {text : String} {result : Except Fault α}
    (reads : Reads Means Says (Text.trim text) result)
    (passes : Meant Means (some text) → check.Passes env files)
    (reports : ∀ fault, Refuses Means Says (some text) fault → check.Reports env files fault) :
    check.Decides env files (Means (Text.trim text)) result := by
  cases reads with
  | @ok a means =>
    refine .inl ⟨a, rfl, means, passes ?_⟩
    rintro _ ⟨⟩
    exact ⟨a, means⟩
  | @error fault meaningless said =>
    exact .inr ⟨fault, rfl, reports fault ⟨text, rfl, meaningless, said⟩⟩

theorem orStandard_decides (standard : α) {read : String → Except Fault α}
    (reads : ∀ text, Reads Means Says (Text.trim text) (read text)) {value : Option String}
    (passes : Meant Means value → check.Passes env files)
    (reports : ∀ fault, Refuses Means Says value fault → check.Reports env files fault) :
    check.Decides env files (Stated standard Means value) (orStandard standard read value) := by
  cases value with
  | none => exact .inl ⟨standard, rfl, rfl, passes nofun⟩
  | some text => exact (reads text).decides passes reports

end Variables

theorem Decided.bind {result : Except Fault α} {rest : α → Except Fault β}
    (first : check.Decides env files Spec result)
    (others : ∀ a, Spec a → Decided env files checks Rest (rest a)) :
    Decided env files (check :: checks) Rest (result >>= rest) := by
  rcases first with ⟨a, rfl, spec, passes⟩ | ⟨fault, rfl, reports⟩
  · rcases others a spec with left | ⟨before, other, after, fault, split, pass, reports, error⟩
    · exact .inl left
    · exact .inr ⟨check :: before, other, after, fault, congrArg (check :: ·) split,
        List.forall_mem_cons.2 ⟨passes, pass⟩, reports, error⟩
  · exact .inr ⟨[], check, checks, fault, rfl, nofun, reports, rfl⟩

end Deciding

section Parts

variable (env : Environment) (files : Files)

theorem resolveBroker_decides :
    Check.brokerPort.Decides env files (BrokerResolved env) (resolveBroker env) := by
  refine (orStandard_decides 5672 (parsePort_reads brokerPortVariable) (fun meant => ?_)
    fun fault refuses => ?_).map fun port stated => ?_
  · exact meant
  · exact refuses
  · exact ⟨rfl, stated, rfl, rfl, rfl, rfl, rfl, rfl⟩

theorem resolveBind_decides : Check.bind.Decides env files (Bound env) (resolveBind env) := by
  cases given : env.get addressVariable with
  | some text =>
    have spec : Bound env = MeansAddress (Text.trim text) := by
      funext bind
      rw [Bound, given]
    have result : resolveBind env = parseAddress text := by
      rw [resolveBind, given]
    rw [spec, result]
    refine (parseAddress_reads text).decides (fun meant => ?_) fun fault refuses => ?_
    · rw [Check.Passes, given]
      exact meant
    · rw [Check.Reports, given]
      exact refuses
  | none =>
    have result : resolveBind env =
        (orStandard 5000 (parsePort portVariable) (env.get portVariable)).map
          (Settings.standard.bind.withPort ·) := by
      rw [resolveBind, given]
      cases env.get portVariable with
      | none => rfl
      | some value => simp only [orStandard]
    rw [result]
    refine (orStandard_decides 5000 (parsePort_reads portVariable) (fun meant => ?_)
      fun fault refuses => ?_).map fun port stated => ?_
    · rw [Check.Passes, given]
      exact meant
    · rw [Check.Reports, given]
      exact refuses
    · rw [Bound, given]
      exact ⟨port, stated, rfl⟩

theorem resolveDefaults_decides :
    Check.defaults.Decides env files
      (Stated .builtIn (MeansDefaults files) (env.get defaultsVariable))
      (resolveDefaults env files) := by
  refine orStandard_decides .builtIn (defaults_reads files) (fun meant => ?_) fun fault refuses => ?_
  · exact meant
  · exact refuses

theorem resolvePolicy_decides :
    Check.policy.Decides env files (Stated .warn MeansPolicy (env.get policyVariable))
      (resolvePolicy env) := by
  refine orStandard_decides .warn policy_reads (fun meant => ?_) fun fault refuses => ?_
  · exact meant
  · exact refuses

/-- All that is left to check of the broker's settings is their port. -/
theorem validate_decides {s : Settings} (resolved : BrokerResolved env s.broker) :
    Check.usablePort.Decides env files (fun _ => s.validate = .ok ()) s.validate := by
  have stated := resolved.port
  by_cases zero : s.broker.port = 0
  · have valid : s.validate = .error (.unusable .zeroPort) := by
      simp only [Settings.validate, resolved.unusable?_eq, zero, ↓reduceIte]
    rw [zero] at stated
    refine .inr ⟨_, valid, ?_, rfl⟩
    cases given : env.get brokerPortVariable with
    | none =>
      rw [given] at stated
      exact absurd stated (show (0 : UInt16) ≠ 5672 by decide)
    | some text =>
      rw [given] at stated
      exact ⟨text, rfl, stated⟩
  · have valid : s.validate = .ok () := by
      simp only [Settings.validate, resolved.unusable?_eq, zero, ↓reduceIte]
    refine .inl ⟨(), valid, valid, fun text given means => zero ?_⟩
    rw [given] at stated
    exact UInt16.toNat_inj.1 (Whole.Writes.unique stated means)

theorem resolve_decided : Decided env files Check.all (Resolved env files) (resolve env files) := by
  refine .bind (resolveBroker_decides env files) fun broker broker_resolved => ?_
  refine .bind (resolveBind_decides env files) fun bind bound => ?_
  refine .bind (resolveDefaults_decides env files) fun defaults defaults_stated => ?_
  refine .bind (resolvePolicy_decides env files) fun policy policy_stated => ?_
  refine .bind (validate_decides env files (s := ⟨bind, broker, defaults, policy⟩) broker_resolved)
    fun _ usable => ?_
  exact .inl ⟨_, rfl, broker_resolved, bound, defaults_stated, policy_stated, usable⟩

end Parts

theorem Stated.unique {α : Type} {standard a b : α} {Means : String → α → Prop} {value : Option String}
    (one : ∀ text a b, Means text a → Means text b → a = b) (first : Stated standard Means value a)
    (second : Stated standard Means value b) : a = b := by
  cases value with
  | none => exact first.trans second.symm
  | some text => exact one _ a b first second

theorem MeansPort.unique (text : String) (a b : UInt16) (first : MeansPort text a)
    (second : MeansPort text b) : a = b :=
  UInt16.toNat_inj.1 (Whole.Writes.unique first second)

theorem MeansPolicy.unique (text : String) (a b : UnroutablePolicy) (first : MeansPolicy text a)
    (second : MeansPolicy text b) : a = b := by
  have same : a.name = b.name := first.symm.trans second
  cases a <;> cases b
  · rfl
  · exact absurd same (by decide)
  · exact absurd same (by decide)
  · rfl

variable {env : Environment} {files : Files}

theorem BrokerResolved.unique {a b : Access} (first : BrokerResolved env a)
    (second : BrokerResolved env b) : a = b := by
  have port : a.port = b.port := Stated.unique MeansPort.unique first.port second.port
  have host := first.host.trans second.host.symm
  have vhost := first.vhost.trans second.vhost.symm
  have username := first.username.trans second.username.symm
  have password := first.password.trans second.password.symm
  have heartbeat := first.heartbeat.trans second.heartbeat.symm
  have blockedTimeout := first.blockedTimeout.trans second.blockedTimeout.symm
  have connectionName := first.connectionName.trans second.connectionName.symm
  cases a
  cases b
  simp_all only

theorem Bound.unique {a b : SocketAddress} (first : Bound env a) (second : Bound env b) : a = b := by
  rw [Bound] at first second
  split at first
  next set =>
    rw [set] at second
    exact Option.some.inj (first.symm.trans second)
  next unset =>
    rw [unset] at second
    obtain ⟨port, stated, rfl⟩ := first
    obtain ⟨other, stated', rfl⟩ := second
    rw [Stated.unique MeansPort.unique stated stated']

theorem Resolved.unique {s t : Settings} (first : Resolved env files s)
    (second : Resolved env files t) : s = t := by
  have broker := first.broker.unique second.broker
  have bind := first.bind.unique second.bind
  have defaults : s.defaults = t.defaults :=
    Stated.unique (fun _ _ _ one other => Except.ok.inj (one.symm.trans other)) first.defaults
      second.defaults
  have policy : s.policy = t.policy := Stated.unique MeansPolicy.unique first.policy second.policy
  cases s
  cases t
  simp_all only

theorem Resolved.passes {s : Settings} (resolved : Resolved env files s) (check : Check) :
    check.Passes env files := by
  cases check with
  | brokerPort => exact resolved.broker.port.meant
  | bind => exact resolved.bind.passes
  | defaults => exact resolved.defaults.meant
  | policy => exact resolved.policy.meant
  | usablePort =>
    rcases validate_decides env files resolved.broker with ⟨_, _, _, passes⟩ | ⟨fault, unusable, _⟩
    · exact passes
    · cases resolved.usable.symm.trans unusable

/-- An environment that resolves: of each variable that is set and read, what it is set to. -/
structure Accepted (env : Environment) (files : Files) : Prop where
  brokerPort : ∀ text, env.get brokerPortVariable = some text →
    ∃ n, Whole.Writes (Text.trim text) n ∧ 1 ≤ n ∧ n ≤ 65535
  address : ∀ text, env.get addressVariable = some text →
    ∃ address, SocketAddress.parse? (Text.trim text) = some address
  port : env.get addressVariable = none → ∀ text, env.get portVariable = some text →
    ∃ n, Whole.Writes (Text.trim text) n ∧ n ≤ 65535
  defaults : ∀ path, env.get defaultsVariable = some path →
    ∃ defaults, DefaultsFile.load files (Text.trim path) = .ok defaults
  policy : ∀ text, env.get policyVariable = some text →
    Text.lowerAscii (Text.trim text) = "warn" ∨ Text.lowerAscii (Text.trim text) = "reject"

theorem meansPort_ofNat {text : String} {n : Nat} (writes : Whole.Writes text n) (inside : n ≤ 65535) :
    MeansPort text (UInt16.ofNat n) := by
  rw [MeansPort, UInt16.toNat_ofNat_of_lt' (Nat.lt_succ_of_le inside)]
  exact writes

theorem MeansPort.writes {text : String} {port : UInt16} (means : MeansPort text port) :
    ∃ n, Whole.Writes text n ∧ n ≤ 65535 :=
  ⟨port.toNat, means, Nat.le_pred_of_lt port.toNat_lt⟩

theorem Accepted.passes (accepted : Accepted env files) (check : Check) : check.Passes env files := by
  cases check with
  | brokerPort =>
    intro text set
    obtain ⟨n, writes, _, inside⟩ := accepted.brokerPort text set
    exact ⟨_, meansPort_ofNat writes inside⟩
  | bind =>
    rw [Check.Passes]
    split
    next text set =>
      rintro _ ⟨⟩
      exact accepted.address text set
    next unset =>
      intro text set
      obtain ⟨n, writes, inside⟩ := accepted.port unset text set
      exact ⟨_, meansPort_ofNat writes inside⟩
  | defaults => exact accepted.defaults
  | policy =>
    intro text set
    rcases accepted.policy text set with warn | reject
    · exact ⟨.warn, warn⟩
    · exact ⟨.reject, reject⟩
  | usablePort =>
    intro text set zero
    obtain ⟨n, writes, positive, _⟩ := accepted.brokerPort text set
    have none : n = 0 := writes.unique zero
    omega

theorem accepted_of_passes (passes : ∀ check : Check, check.Passes env files) : Accepted env files where
  brokerPort := by
    intro text set
    obtain ⟨port, means⟩ := passes .brokerPort text set
    have other : port ≠ 0 := by
      rintro rfl
      exact passes .usablePort text set means
    have positive : port.toNat ≠ 0 := fun zero => other (UInt16.toNat_inj.1 zero)
    exact ⟨port.toNat, means, by omega, Nat.le_pred_of_lt port.toNat_lt⟩
  address := by
    intro text set
    have bind := passes .bind
    rw [Check.Passes, set] at bind
    exact bind text rfl
  port := by
    intro unset text set
    have bind := passes .bind
    rw [Check.Passes, unset] at bind
    obtain ⟨port, means⟩ := bind text set
    exact means.writes
  defaults := passes .defaults
  policy := by
    intro text set
    obtain ⟨policy, named⟩ := passes .policy text set
    cases policy with
    | warn => exact .inl named
    | reject => exact .inr named

/-- An environment resolves exactly if it is accepted. What it resolves to is decided member by member,
each by its own variable, and a connection can be made with it. If it does not resolve, the fault is
that of the first check that fails, and names the variable or the file that the check is about. -/
theorem settings_or_first_fault (env : Environment) (files : Files) :
    ((∃ s, resolve env files = .ok s) ↔ Accepted env files) ∧
    (∀ s, resolve env files = .ok s ↔ Resolved env files s) ∧
    ∀ fault, resolve env files = .error fault → ∃ before check after,
      Check.all = before ++ check :: after ∧ (∀ c ∈ before, c.Passes env files) ∧
      ¬check.Passes env files ∧ check.Reports env files fault ∧
      fault.Mentions (check.subject env) ∧
      ∃ lead rest, fault.message = lead ++ check.subject env ++ rest := by
  rcases resolve_decided env files with
    ⟨s, ok, resolved⟩ | ⟨before, check, after, fault, split, pass, reports, error⟩
  · refine ⟨⟨fun _ => accepted_of_passes fun check => ?_, fun _ => ⟨s, ok⟩⟩, fun t => ⟨fun given => ?_,
      fun given => ?_⟩, fun fault error => ?_⟩
    · exact resolved.passes check
    · cases ok.symm.trans given
      exact resolved
    · rw [ok, resolved.unique given]
    · cases ok.symm.trans error
  · refine ⟨⟨fun ⟨s, ok⟩ => ?_, fun accepted => ?_⟩, fun t => ⟨fun given => ?_, fun given => ?_⟩,
      fun other given => ?_⟩
    · cases error.symm.trans ok
    · exact absurd (accepted.passes check) reports.fails
    · cases error.symm.trans given
    · exact absurd (given.passes check) reports.fails
    · cases error.symm.trans given
      exact ⟨before, check, after, split, pass, reports.fails, reports, reports.mentions,
        reports.mentions.message⟩

-- Where an address is set, the port is not read, even if it is no number.
example :
    let env : Environment := fun name =>
      if name = addressVariable then some " 127.0.0.1:80 "
      else if name = portVariable then some "http" else none
    (resolve env fun _ => .error .missing).toOption.map (·.bind) = some (.v4 ⟨127, 0, 0, 1⟩ 80) := by
  decide +kernel

end TopicGateway.Config
