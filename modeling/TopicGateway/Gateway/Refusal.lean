import TopicGateway.Http.Basic
import TopicGateway.Json.Printer
import TopicGateway.Message.Template

/-! Refused requests. Every refusal is answered with an object that has the one member `error`. What
the caller did wrong has status 400; a message that could not be sent has status 500, and its text
names no cause. -/

namespace TopicGateway.Gateway

inductive Refusal where
  | missingField (name : String)
  | invalidField (name reason : String)
  | malformedBody (reason : String)
  | unsupportedFormat
  | missingFile
  | noFileSelected
  | template (fault : Base64.Fault)
  | unroutableKey (key : String)
  | publishFailed (what : String)
  | internal (detail : String)
  deriving DecidableEq

namespace Refusal

def message : Refusal → String
  | .missingField name => "missing required field: " ++ name
  | .invalidField name reason => "invalid field " ++ name ++ ": " ++ reason
  | .malformedBody reason => "malformed request body: " ++ reason
  | .unsupportedFormat => "invalid request format: send JSON or a multipart file"
  | .missingFile => "no file found in request"
  | .noFileSelected => "no file selected"
  | .template fault => Message.Template.faultMessage fault
  | .unroutableKey key => "routing key '" ++ key ++ "' matches no queue binding"
  | .publishFailed what => "failed to send " ++ what
  | .internal detail => detail

def status : Refusal → Nat
  | .publishFailed _ | .internal _ => 500
  | _ => 400

end Refusal

def jsonAnswer (status : Nat) (body : Json) : Http.Answer where
  status := status
  contentType := some "application/json"
  allow := none
  body := body.bytes

def errorAnswer (status : Nat) (message : String) : Http.Answer :=
  jsonAnswer status (.object [("error", .string message)])

def Refusal.answer (r : Refusal) : Http.Answer :=
  errorAnswer r.status r.message

inductive Crash where
  | text (s : String)
  | other
  deriving DecidableEq

/-- A handler that fails is answered for with its text, if it left one. -/
def Crash.answer : Crash → Http.Answer
  | .text s => errorAnswer 500 s
  | .other => errorAnswer 500 "unknown panic"

def contain : Except Crash Http.Answer → Http.Answer
  | .ok answer => answer
  | .error crash => crash.answer

end TopicGateway.Gateway
