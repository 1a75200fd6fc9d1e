import TopicGateway.Broker.Access
import TopicGateway.Config.DefaultsFile
import TopicGateway.Config.Policy
import TopicGateway.Net.SocketAddress
import TopicGateway.Number.Whole

/-! Configuration. Everything the gateway is set up with, from variables and from the file of
template defaults. A variable that is missing or blank counts as not set, and what it would set
keeps its standard value. The first thing that is wrong in the order of reading is what a fault
names; whether a connection can be made with the broker's settings at all is checked last. -/

namespace TopicGateway.Config

open Broker (Access)
open Message (Defaults)
open Net (SocketAddress)

structure Settings where
  /-- Where the gateway listens. -/
  bind : SocketAddress
  broker : Access
  defaults : Defaults
  policy : UnroutablePolicy
  deriving DecidableEq

def Settings.standard : Settings where
  bind := .v4 ⟨0, 0, 0, 0⟩ 5000
  broker := .standard
  defaults := .builtIn
  policy := .warn

def hostVariable : String := "RABBITMQ_HOST"
def brokerPortVariable : String := "RABBITMQ_PORT"
def userVariable : String := "RABBITMQ_USER"
def passwordVariable : String := "RABBITMQ_PASS"
def vhostVariable : String := "RABBITMQ_VHOST"
def portVariable : String := "PORT"
def addressVariable : String := "GATEWAY_ADDR"
def defaultsVariable : String := "GATEWAY_DEFAULTS_FILE"
def policyVariable : String := "GATEWAY_UNROUTABLE_POLICY"

abbrev Environment := String → Option String

def Environment.get (env : Environment) (name : String) : Option String :=
  Text.nonBlank (env name)

inductive Unusable where
  | blankHost
  | zeroPort
  | emptyVhost
  | zeroHeartbeat
  | zeroBlockedTimeout
  deriving DecidableEq

def Unusable.text : Unusable → String
  | .blankHost => hostVariable ++ " must not be empty"
  | .zeroPort => brokerPortVariable ++ " must be non-zero"
  | .emptyVhost => vhostVariable ++ " must not be empty"
  | .zeroHeartbeat => "broker heartbeat must be positive"
  | .zeroBlockedTimeout => "broker blocked-connection timeout must be positive"

inductive BadValue where
  | number (e : Whole.Fault)
  | address
  deriving DecidableEq

def BadValue.message : BadValue → String
  | .number e => e.message
  | .address => "invalid socket address syntax"

inductive Fault where
  | variable (name value : String) (reason : BadValue)
  | policy (reason : String)
  | defaults (cause : DefaultsFault)
  | unusable (what : Unusable)
  deriving DecidableEq

namespace Fault

def lead : String := "CONFIG_INVALID: "

def causes : Fault → List String
  | .variable name value reason => [lead ++ name ++ "='" ++ value ++ "': " ++ reason.message]
  | .policy reason => [lead ++ policyVariable, reason]
  | .defaults cause => cause.causes
  | .unusable what => [lead ++ what.text]

def message (f : Fault) : String :=
  ": ".intercalate f.causes

end Fault

/-- A port number, blanks around it ignored. -/
def parsePort (name value : String) : Except Fault UInt16 :=
  match Whole.parse16 (Text.trim value) with
  | .ok n => .ok n
  | .error e => .error (.variable name (Text.trim value) (.number e))

def parseAddress (value : String) : Except Fault SocketAddress :=
  match SocketAddress.parse? (Text.trim value) with
  | some a => .ok a
  | none => .error (.variable addressVariable (Text.trim value) .address)

/-- What `read` makes of a variable, or `standard` if that is not set. -/
def orStandard {α : Type} (standard : α) (read : String → Except Fault α) :
    Option String → Except Fault α
  | none => .ok standard
  | some value => read value

/-- The broker's settings. Account name and password are taken as they are. -/
def resolveBroker (env : Environment) : Except Fault Access :=
  let standard := Access.standard
  (orStandard standard.port (parsePort brokerPortVariable) (env.get brokerPortVariable)).map
    fun port => { standard with
      host := ((env.get hostVariable).map Text.trim).getD standard.host
      port := port
      vhost := ((env.get vhostVariable).map Text.trim).getD standard.vhost
      username := (env.get userVariable).getD standard.username
      password := (env.get passwordVariable).getD standard.password }

/-- Where to listen: at the address if it is given, else on all hosts at the port. -/
def resolveBind (env : Environment) : Except Fault SocketAddress :=
  let standard := Settings.standard.bind
  match env.get addressVariable with
  | some value => parseAddress value
  | none =>
    orStandard standard (fun value => (parsePort portVariable value).map (standard.withPort ·))
      (env.get portVariable)

def resolveDefaults (env : Environment) (files : Files) : Except Fault Defaults :=
  orStandard .builtIn
    (fun path =>
      match DefaultsFile.load files (Text.trim path) with
      | .ok d => .ok d
      | .error e => .error (.defaults e))
    (env.get defaultsVariable)

def resolvePolicy (env : Environment) : Except Fault UnroutablePolicy :=
  orStandard .warn
    (fun value =>
      match UnroutablePolicy.parse value with
      | .ok p => .ok p
      | .error reason => .error (.policy reason))
    (env.get policyVariable)

def unusable? (a : Access) : Option Unusable :=
  if Text.blank a.host then some .blankHost
  else if a.port = 0 then some .zeroPort
  else if a.vhost.isEmpty then some .emptyVhost
  else if a.heartbeat = 0 then some .zeroHeartbeat
  else if a.blockedTimeout = 0 then some .zeroBlockedTimeout
  else none

def Settings.validate (s : Settings) : Except Fault Unit :=
  match unusable? s.broker with
  | some what => .error (.unusable what)
  | none => .ok ()

def resolve (env : Environment) (files : Files) : Except Fault Settings := do
  let broker ← resolveBroker env
  let bind ← resolveBind env
  let defaults ← resolveDefaults env files
  let policy ← resolvePolicy env
  let settings : Settings := ⟨bind, broker, defaults, policy⟩
  settings.validate
  pure settings

end TopicGateway.Config
