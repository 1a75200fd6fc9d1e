import TopicGateway.Text.Blank
import TopicGateway.Text.Utf8

/-! Requests and answers. A request and an answer as a handler sees them. Header names are compared
without regard to case, and of several headers with one name the first counts. -/

namespace TopicGateway.Http

structure Request where
  method : String
  path : String
  headers : List (String × List UInt8)
  body : ByteArray

structure Answer where
  status : Nat
  contentType : Option String
  /-- The methods that a path is open to, where another one was tried. -/
  allow : Option String
  body : List UInt8
  deriving DecidableEq

def Request.header? (r : Request) (name : String) : Option (List UInt8) :=
  (r.headers.find? fun h => Text.lowerAscii h.1 = name).map Prod.snd

def isVisible (b : UInt8) : Bool :=
  b == 0x09 || (0x20 ≤ b && b < 0x7f)

def Request.contentType? (r : Request) : Option (List Char) :=
  match r.header? "content-type" with
  | some value =>
    if value.all isVisible then some (value.map fun b => Char.ofNat b.toNat) else none
  | none => none

/-- The path without the query. -/
def Request.route (r : Request) : String :=
  String.ofList (r.path.toList.takeWhile (· != '?'))

end TopicGateway.Http
