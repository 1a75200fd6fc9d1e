import TopicGateway.Command.Run
import TopicGateway.Config.Describe

/-! Environments that differ in the broker's password only. Resolving takes the password up unseen and
puts it into one member; nothing that is printed reads that member. -/
namespace TopicGateway

open Broker (Access Connector Topology)

namespace Config

def Settings.withPassword (s : Settings) (password : String) : Settings :=
  { s with broker.password := password }

/-- The password that an environment sets, or else the standard one. -/
def Environment.password (env : Environment) : String :=
  (env.get passwordVariable).getD Access.standard.password

/-- Two environments that differ in the password at most, and the same file of defaults for both. -/
structure SameButPassword (env₁ env₂ : Environment) (files₁ files₂ : Files) : Prop where
  others : ∀ name, name ≠ passwordVariable → env₁ name = env₂ name
  file : ∀ path, env₁.get defaultsVariable = some path →
    files₁ (Text.trim path) = files₂ (Text.trim path)

namespace SameButPassword

variable {env₁ env₂ : Environment} {files₁ files₂ : Files}
  (same : SameButPassword env₁ env₂ files₁ files₂)
include same

theorem get {name : String} (other : name ≠ passwordVariable) : env₂.get name = env₁.get name := by
  rw [Environment.get, Environment.get, same.others name other]

theorem resolveBroker_eq :
    resolveBroker env₂ =
      (resolveBroker env₁).map fun a => { a with password := env₂.password } := by
  have host := same.get (show hostVariable ≠ passwordVariable by decide)
  have port := same.get (show brokerPortVariable ≠ passwordVariable by decide)
  have user := same.get (show userVariable ≠ passwordVariable by decide)
  have vhost := same.get (show vhostVariable ≠ passwordVariable by decide)
  rw [resolveBroker, resolveBroker, host, port, user, vhost]
  cases orStandard Access.standard.port (parsePort brokerPortVariable) (env₁.get brokerPortVariable) <;>
    rfl

theorem resolveBind_eq : resolveBind env₂ = resolveBind env₁ := by
  have address := same.get (show addressVariable ≠ passwordVariable by decide)
  have port := same.get (show portVariable ≠ passwordVariable by decide)
  rw [resolveBind, resolveBind, address, port]

theorem resolveDefaults_eq : resolveDefaults env₂ files₂ = resolveDefaults env₁ files₁ := by
  rw [resolveDefaults, resolveDefaults, same.get (show defaultsVariable ≠ passwordVariable by decide)]
  cases given : env₁.get defaultsVariable with
  | none => rfl
  | some path =>
    have loaded : DefaultsFile.load files₂ (Text.trim path) =
        DefaultsFile.load files₁ (Text.trim path) := by
      rw [DefaultsFile.load, DefaultsFile.load, Files.text, Files.text, same.file path given]
    simp only [orStandard, loaded]

theorem resolvePolicy_eq : resolvePolicy env₂ = resolvePolicy env₁ := by
  rw [resolvePolicy, resolvePolicy, same.get (show policyVariable ≠ passwordVariable by decide)]

/-- The second environment gives what the first one gives, with its own password in it. Whether a
connection can be made is checked without the password. -/
theorem resolve_eq :
    resolve env₂ files₂ = (resolve env₁ files₁).map (·.withPassword env₂.password) := by
  rw [resolve, resolve, same.resolveBroker_eq, same.resolveBind_eq, same.resolveDefaults_eq,
    same.resolvePolicy_eq]
  cases resolveBroker env₁ with
  | error fault => rfl
  | ok broker =>
  cases resolveBind env₁ with
  | error fault => rfl
  | ok address =>
  cases resolveDefaults env₁ files₁ with
  | error fault => rfl
  | ok defaults =>
  cases resolvePolicy env₁ with
  | error fault => rfl
  | ok policy =>
    simp only [Except.map, bind, Except.bind, Settings.validate]
    rw [show unusable? { broker with password := env₂.password } = unusable? broker from rfl]
    cases unusable? broker <;> rfl

end SameButPassword

variable (s : Settings) (password : String)

theorem Settings.target_withPassword : (s.withPassword password).broker.target = s.broker.target :=
  rfl

theorem Settings.brokerText_withPassword :
    (s.withPassword password).broker.describe = s.broker.describe :=
  rfl

theorem Settings.describe_withPassword : (s.withPassword password).describe = s.describe :=
  rfl

end Config

namespace Command

open Config (Environment Files Settings)

/-- No broker is asked: the settings or the topology are printed, or a publication is refused before
it is sent. -/
def Request.Offline (stamp : Message.Stamp) : Request → Prop
  | .config => True
  | .topology declare => declare = false
  | .publish p => ∃ failure, p.envelope stamp = .error failure

variable {σ ρ : Type} (connect : Access → Topology → Connector σ ρ)

theorem settingsLines_withPassword (s : Settings) (password : String) :
    settingsLines (s.withPassword password) = settingsLines s :=
  rfl

theorem serve_withPassword {request : Request} {stamp : Message.Stamp} (offline : request.Offline stamp)
    (s : Settings) (password : String) (sentAt : Int) (broker : σ) :
    serve connect request (s.withPassword password) stamp sentAt broker =
      serve connect request s stamp sentAt broker := by
  cases request with
  | config => rw [serve, serve, settingsLines_withPassword]
  | topology declare =>
    cases offline
    rfl
  | publish p =>
    obtain ⟨failure, refused⟩ := offline
    rw [serve, serve, publish, publish, refused]

theorem run_of_resolve_eq {env₁ env₂ : Environment} {files₁ files₂ : Files} {password : String}
    (resolved : Config.resolve env₂ files₂ = (Config.resolve env₁ files₁).map (·.withPassword password))
    {arguments : List String} {stamp : Message.Stamp}
    (offline : ∀ request, Arguments.parse arguments = .ok request → request.Offline stamp)
    (sentAt : Int) (broker : σ) :
    run connect arguments env₂ files₂ stamp sentAt broker =
      run connect arguments env₁ files₁ stamp sentAt broker := by
  rw [run, run]
  cases parsed : Arguments.parse arguments with
  | error unserved => cases unserved <;> rfl
  | ok request =>
    rw [resolved]
    cases Config.resolve env₁ files₁ with
    | error fault => rfl
    | ok s => simp only [Except.map, serve_withPassword connect (offline request parsed)]

/-- What comes of two environments when only the password differs. -/
def Indistinct : Except Config.Fault Settings → Except Config.Fault Settings → Prop
  | .error f₁, .error f₂ => f₁ = f₂
  | .ok s₁, .ok s₂ => s₂ = s₁.withPassword s₂.broker.password ∧ s₂.describe = s₁.describe ∧
    s₂.broker.describe = s₁.broker.describe ∧ s₂.broker.target = s₁.broker.target
  | _, _ => False

/-- The password shows in nothing. Of two environments that differ in it alone, with one file of
defaults, both are refused for the same fault, or both resolve to the same settings but for the
password, which no log tells apart; and whatever is asked of the program that asks no broker, it prints
the same and ends the same. -/
theorem password_unseen {env₁ env₂ : Environment} {files₁ files₂ : Files}
    (same : Config.SameButPassword env₁ env₂ files₁ files₂) :
    Indistinct (Config.resolve env₁ files₁) (Config.resolve env₂ files₂) ∧
    ∀ {σ ρ : Type} (connect : Access → Topology → Connector σ ρ) (arguments : List String)
      (stamp : Message.Stamp), (∀ request, Arguments.parse arguments = .ok request →
        request.Offline stamp) → ∀ (sentAt : Int) (broker : σ),
      run connect arguments env₁ files₁ stamp sentAt broker =
        run connect arguments env₂ files₂ stamp sentAt broker := by
  have resolved := same.resolve_eq
  refine ⟨?_, fun connect arguments stamp offline sentAt broker =>
    (run_of_resolve_eq connect resolved offline sentAt broker).symm⟩
  rw [resolved]
  cases Config.resolve env₁ files₁ with
  | error fault => exact rfl
  | ok s =>
    exact ⟨rfl, s.describe_withPassword _, s.brokerText_withPassword _, s.target_withPassword _⟩

/-- The password of the one environment is a secret, that of the other one is also the name of the
account. They resolve to different settings, and print the same ones. -/
theorem account_name_unseen :
    let env (password : String) : Environment := fun name =>
      if name = Config.passwordVariable then some password
      else if name = Config.userVariable then some "ops" else none
    let files : Files := fun _ => .error .missing
    Config.SameButPassword (env "hunter2") (env "ops") files files ∧
    (∀ password ∈ ["hunter2", "ops"],
      (Config.resolve (env password) files).toOption.map (·.broker.password) = some password) ∧
    Indistinct (Config.resolve (env "hunter2") files) (Config.resolve (env "ops") files) ∧
    ∀ {σ ρ : Type} (connect : Access → Topology → Connector σ ρ) (stamp : Message.Stamp) (broker : σ),
      run connect ["config"] (env "hunter2") files stamp 0 broker =
        run connect ["config"] (env "ops") files stamp 0 broker := by
  intro env files
  have same : Config.SameButPassword (env "hunter2") (env "ops") files files := by
    refine ⟨fun name other => ?_, fun _ _ => rfl⟩
    simp only [env, other, ↓reduceIte]
  obtain ⟨indistinct, unseen⟩ := password_unseen same
  refine ⟨same, by decide +kernel, indistinct, fun connect stamp broker => ?_⟩
  refine unseen connect ["config"] stamp (fun request parsed => ?_) 0 broker
  cases parsed
  trivial

end Command

end TopicGateway
