import TopicGateway.Amqp.Session
import TopicGateway.Command.EnvFile
import TopicGateway.Command.Run

/-! The program `bgw`. Collects the arguments, the variables and the file that the configuration
names, runs the command, and prints what it reports. There is no network transport here: every
broker counts as unreachable. -/

open TopicGateway

namespace TopicGateway.Main

/-- The file of variables, in the working directory or the nearest directory above that has it. -/
def envFileName : String := ".env.local"

def readText? (path : String) : IO (Option String) := do
  try
    return some (← IO.FS.readFile path)
  catch _ =>
    return none

def deepest : Nat := 32

/-- The text of the file of variables, at most `depth` directories up from `lead`. -/
def findEnvFile : Nat → String → IO String
  | 0, _ => return ""
  | depth + 1, lead => do
    match ← readText? (lead ++ envFileName) with
    | some text => return text
    | none => findEnvFile depth (lead ++ "../")

def knownVariables : List String := [Config.hostVariable, Config.brokerPortVariable,
  Config.userVariable, Config.passwordVariable, Config.vhostVariable, Config.portVariable,
  Config.addressVariable, Config.defaultsVariable, Config.policyVariable]

/-- Everything in a text that may be the name of a variable, as a key or behind a dollar sign. -/
def names (text : String) : List String :=
  let pieces (keep : Char → Bool) := (text.splitToList fun c => !keep c).filter (!·.isEmpty)
  pieces Command.EnvFile.isKeyChar ++ pieces Text.isAlphanumeric

/-- The given variables as they are set for this process. -/
def environment (names : List String) : IO Config.Environment := do
  let pairs ← names.mapM fun name => return (name, ← IO.getEnv name)
  return fun name => (pairs.lookup name).join

def fileFault : IO.Error → Config.FileFault
  | .inappropriateType _ code _ => if code = 21 then .isDirectory else .noDirectory
  | .permissionDenied _ _ _ => .denied
  | .invalidArgument _ _ _ => .longName
  | _ => .missing

/-- The one file that the configuration can name. -/
def defaultsFile (env : Config.Environment) : IO Config.Files := do
  match env.get Config.defaultsVariable with
  | none => return fun _ => .error .missing
  | some path =>
    try
      let bytes ← IO.FS.readBinFile (Text.trim path)
      return fun _ => .ok bytes.data.toList
    catch e =>
      return fun _ => .error (fileFault e)

def randomUuid : IO Uuid := do
  let bytes ← IO.getRandomBytes 16
  let digits : List (Fin 16) := bytes.data.toList.flatMap fun b =>
    [⟨b.toNat / 16 % 16, by omega⟩, ⟨b.toNat % 16, by omega⟩]
  let marked := (digits.set 12 4).set 16 (8 + ⟨(digits.getD 16 0).val % 4, by omega⟩)
  return (Uuid.ofDigits? marked).getD .zero

/-- A message never leaves, so its time does not matter. -/
def stamp : IO Message.Stamp := do
  return ⟨← randomUuid, ← randomUuid, Message.Wire.epoch⟩

def noNetwork : Amqp.Peer :=
  .unreachable "Network is unreachable (os error 101)"

def run (arguments : List String) : IO UInt32 := do
  let text ← findEnvFile deepest ""
  let env ← environment (knownVariables ++ names text)
  let env := Command.EnvFile.load env text
  let files ← defaultsFile env
  let (outcome, _) :=
    Command.run (Amqp.connector noNetwork) arguments env files (← stamp) 0 []
  IO.print outcome.stdout
  IO.eprint outcome.stderr
  return outcome.exitCode.toUInt32

end TopicGateway.Main

def main (arguments : List String) : IO UInt32 :=
  TopicGateway.Main.run arguments
