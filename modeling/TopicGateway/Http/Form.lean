import TopicGateway.Http.Multipart

/-! Forms. A form is what a sequence of parts amounts to: the first part named `file` is the
uploaded file, and every other part is a text field. Of several fields with one name the first
counts. -/

namespace TopicGateway.Http

structure UploadedFile where
  /-- Empty when the part carried no file name. -/
  fileName : String
  content : List UInt8
  deriving DecidableEq

structure Form where
  file : Option UploadedFile
  /-- Names with their texts, each name once. -/
  fields : List (String × String)
  deriving DecidableEq

namespace Form

def empty : Form := ⟨none, []⟩

def field (form : Form) (name : String) : Option String :=
  form.fields.lookup name

def nameOf (p : Part) : String := p.name.getD ""

def add (form : Form) (p : Part) : Form :=
  if nameOf p = "file" ∧ form.file = none then
    { form with file := some ⟨p.fileName.getD "", p.content⟩ }
  else if (form.field (nameOf p)).isSome then form
  else { form with fields := form.fields ++ [(nameOf p, p.charset.decode p.content)] }

def ofParts (parts : List Part) : Form :=
  parts.foldl add empty

/-- The form of a request whose body may have up to `limit` bytes. -/
def read (limit : Nat) (r : Request) : Except Multipart.Fault Form :=
  (Multipart.read limit r).map ofParts

end Form

end TopicGateway.Http
