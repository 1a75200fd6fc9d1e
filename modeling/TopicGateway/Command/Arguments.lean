/-! Arguments. What the command line asks for: one of three commands with its options, or help. An
option's value follows it as the next argument, or behind an equals sign in the same one; no option
is given twice. -/

namespace TopicGateway.Command

structure Publication where
  routingKey : String
  /-- JSON text. -/
  payload : String
  messageType : Option String
  correlationId : Option String
  deriving DecidableEq

inductive Request where
  | config
  | topology (declare : Bool)
  | publish (p : Publication)
  deriving DecidableEq

inductive Topic where
  | program
  | config
  | topology
  | publish
  | help
  deriving DecidableEq

inductive Unserved where
  | help (topic : Topic)
  | misuse
  deriving DecidableEq

namespace Arguments

inductive Form where
  /-- Two dashes: no options follow. -/
  | separator
  | long (name : String) (attached : Option String)
  /-- A dash with letters. -/
  | short (letters : List Char)
  | plain (text : String)

def splitEquals (cs : List Char) : String × Option String :=
  match cs.dropWhile (· ≠ '=') with
  | [] => (String.ofList cs, none)
  | _ :: value => (String.ofList (cs.takeWhile (· ≠ '=')), some (String.ofList value))

def form (argument : String) : Form :=
  match argument.toList with
  | ['-', '-'] => .separator
  | '-' :: '-' :: cs => .long (splitEquals cs).1 (splitEquals cs).2
  | '-' :: c :: cs => .short (c :: cs)
  | _ => .plain argument

/-- The options of a command: those with a value, and those without. -/
structure Options where
  valued : List String
  flags : List String

structure Given where
  values : List (String × String)
  flags : List String

def Given.none : Given := ⟨[], []⟩

def Given.value? (g : Given) (name : String) : Option String :=
  g.values.lookup name

def Given.has (g : Given) (name : String) : Bool :=
  g.flags.contains name || (g.value? name).isSome

/-- Reads the arguments of a command; `pending` is an option whose value comes next. -/
def readOptions (o : Options) (topic : Topic) :
    Option String → Given → List String → Except Unserved Given
  | none, g, [] => .ok g
  | some _, _, [] => .error .misuse
  | some name, g, a :: rest =>
    match form a with
    | .plain value => readOptions o topic none { g with values := (name, value) :: g.values } rest
    | _ => .error .misuse
  | none, g, a :: rest =>
    match form a with
    | .separator => if rest.isEmpty then .ok g else .error .misuse
    | .short letters => .error (if letters.head? = some 'h' then .help topic else .misuse)
    | .plain _ => .error .misuse
    | .long name attached =>
      if g.has name then .error .misuse
      else if o.valued.contains name then
        match attached with
        | some value => readOptions o topic none { g with values := (name, value) :: g.values } rest
        | none => readOptions o topic (some name) g rest
      else if attached.isSome then .error .misuse
      else if name = "help" then .error (.help topic)
      else if o.flags.contains name then
        readOptions o topic none { g with flags := name :: g.flags } rest
      else .error .misuse

def publication (arguments : List String) : Except Unserved Publication :=
  let options : Options :=
    ⟨["routing-key", "payload", "message-type", "correlation-id"], []⟩
  match readOptions options .publish none .none arguments with
  | .error e => .error e
  | .ok g =>
    match g.value? "routing-key", g.value? "payload" with
    | some routingKey, some payload =>
      .ok ⟨routingKey, payload, g.value? "message-type", g.value? "correlation-id"⟩
    | _, _ => .error .misuse

def topic? (name : String) : Option Topic :=
  if name = "config" then some .config
  else if name = "topology" then some .topology
  else if name = "publish" then some .publish
  else if name = "help" then some .help
  else none

def helpTopic : List String → Unserved
  | [] => .help .program
  | [name] =>
    match topic? name with
    | some topic => .help topic
    | none => .misuse
  | _ => .misuse

def parse : List String → Except Unserved Request
  | [] => .error .misuse
  | a :: rest =>
    match form a with
    | .separator => .error .misuse
    | .long name attached =>
      .error (if name = "help" ∧ attached = none then .help .program else .misuse)
    | .short letters => .error (if letters.head? = some 'h' then .help .program else .misuse)
    | .plain name =>
      match topic? name with
      | none => .error .misuse
      | some .help => .error (helpTopic rest)
      | some .config =>
        (readOptions ⟨[], []⟩ .config none .none rest).map fun _ => .config
      | some .topology =>
        (readOptions ⟨[], ["declare"]⟩ .topology none .none rest).map fun g =>
          .topology (g.has "declare")
      | some .publish => (publication rest).map .publish
      | some .program => .error .misuse

end Arguments

end TopicGateway.Command
