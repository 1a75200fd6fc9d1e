import TopicGateway.Gateway.Refusal
import TopicGateway.Json.Fault
import TopicGateway.Json.Reader

/-! Fields of a request body. A JSON body has to be an object. A text field may be a text or a
number, which then counts as its digits; an optional one may also be `null` or absent. -/

namespace TopicGateway.Gateway

def bodyLimit : Nat := 16 * 1024 * 1024

def parseObject (body : List UInt8) : Except Refusal Json.Object :=
  match Json.read body with
  | .error f => .error (.malformedBody ("invalid JSON: " ++ f.message body))
  | .ok j =>
    match j.value.object? with
    | some o => .ok o
    | none => .error (.malformedBody "expected a JSON object")

def readObject (r : Http.Request) : Except Refusal Json.Object :=
  if bodyLimit < r.body.size then .error (.malformedBody "length limit exceeded")
  else parseObject r.body.data.toList

/-- The first of these names that is absent is missing. -/
def requireFields (o : Json.Object) (names : List String) : Except Refusal Unit :=
  match names.find? fun name => !o.contains name with
  | some name => .error (.missingField name)
  | none => .ok ()

def asText : Json → Option String
  | .string s => some s
  | .number n => some n.text
  | _ => none

def textOf (name : String) (j : Json) : Except Refusal String :=
  match asText j with
  | some s => .ok s
  | none => .error (.invalidField name "expected a string")

def stringField (o : Json.Object) (name : String) : Except Refusal String :=
  match o.get? name with
  | none => .error (.missingField name)
  | some j => textOf name j

def optionalString (o : Json.Object) (name : String) : Except Refusal (Option String) :=
  match o.get? name with
  | none | some .null => .ok none
  | some j => (textOf name j).map some

def found : Json → Found
  | .null => .absent
  | .bool b => .bool b
  | .number n => n.found
  | .string s => .text s
  | .array _ => .list
  | .object _ => .object

/-- The refusal of a field whose value is not of the expected kind. -/
def wrongKind (name : String) (j : Json) (expected : String) : Refusal :=
  .invalidField name ((Mismatch.wrongKind (found j) expected).message Json.wording)

def numberField (o : Json.Object) (name : String) : Except Refusal Json.Number :=
  match o.get? name with
  | none => .error (.missingField name)
  | some (.number n) => .ok n
  | some j => .error (wrongKind name j "a JSON number")

def textsOf (name : String) : List Json → Except Refusal (List String)
  | [] => .ok []
  | .string s :: rest => (textsOf name rest).map (s :: ·)
  | j :: _ => .error (wrongKind name j "a string")

def stringsField (o : Json.Object) (name : String) : Except Refusal (List String) :=
  match o.get? name with
  | none => .error (.missingField name)
  | some (.array items) => textsOf name items
  | some j => .error (wrongKind name j "a sequence")

end TopicGateway.Gateway
