import TopicGateway.Proofs.Base64
import TopicGateway.Proofs.Gateway.Documented
import TopicGateway.Proofs.Gateway.Policies
import TopicGateway.Proofs.Http.Form

/-! Files that are uploaded in a form, and files that are uploaded in an object with their content in
base64. Either way a file comes to the same request to the template, and from there on nothing is left
of the way it came. -/
namespace TopicGateway.Gateway

open Message
open Broker (Connector Memory Published Topology)

structure Upload where
  name : String
  content : List UInt8
  fileType : Option String
  relatedId : Option String

/-- What an object has for an optional text; for none it has nothing or `null`. -/
def Stands (member : Option Json) : Option String → Prop
  | some text => member = some (.string text)
  | none => member = none ∨ member = some .null

namespace Upload

structure InForm (u : Upload) (r : Http.Request) : Prop where
  posted : r.method = "POST"
  path : Route.ofPath? r.route = some .fileUpload
  kind : r.bodyKind = .multipart
  form : ∃ form, readForm r = .ok form ∧ form.file = some ⟨u.name, u.content⟩ ∧
    form.field "file_type" = u.fileType ∧ form.field "related_id" = u.relatedId

structure InObject (u : Upload) (r : Http.Request) : Prop where
  object : ∃ members, Hands .fileUpload r members ∧
    (Json.object members).member? "file_name" = some (.string u.name) ∧
    (Json.object members).member? "file_content" = some (.string (Base64.text u.content)) ∧
    Stands ((Json.object members).member? "file_type") u.fileType ∧
    Stands ((Json.object members).member? "related_id") u.relatedId

def request (u : Upload) : FileRequest where
  fileName := u.name
  fileContent := Base64.text u.content
  fileType := u.fileType
  relatedId := u.relatedId

def payload (u : Upload) (defaults : Defaults) (uploadTime : Time.Instant) : FileUpload where
  fileName := u.name
  fileContent := Base64.text u.content
  fileType := u.fileType.getD defaults.fileType
  fileSize := UInt64.ofNat u.content.length
  relatedId := u.relatedId
  uploadTime := uploadTime

def answer (u : Upload) (messageId : Uuid) : Json :=
  .object [
    ("message", .string "file uploaded"),
    ("file_name", .string u.name),
    ("file_size", .number (sizeNumber (UInt64.ofNat u.content.length))),
    ("message_id", .string messageId.text)]

def prepared (u : Upload) (defaults : Defaults) (draws : Draws) : Prepared where
  routingKey := Kind.fileUpload.messageType
  envelope :=
    Template.ofKind draws.stamp .fileUpload (.fileUpload (u.payload defaults draws.uploadTime))
  answer := u.answer draws.stamp.messageId

end Upload

section Fields

variable {o : Json.Object} {name text : String}

theorem requireFields_of_present {names : List String}
    (present : ∀ name ∈ names, ∃ j, o.get? name = some j) : requireFields o names = .ok () := by
  have none : (names.find? fun name => !o.contains name) = none := by
    apply List.find?_eq_none.2
    intro name member
    obtain ⟨j, found⟩ := present name member
    simp [Json.Object.contains, found]
  rw [requireFields, none]

theorem stringField_of_string (found : o.get? name = some (.string text)) :
    stringField o name = .ok text := by
  rw [stringField, found]
  rfl

theorem optionalString_of_stands {given : Option String} (stands : Stands (o.get? name) given) :
    optionalString o name = .ok given := by
  cases given with
  | some text =>
    rw [optionalString, stands]
    rfl
  | none =>
    rcases stands with absent | null
    · rw [optionalString, absent]
    · rw [optionalString, null]

/-- Texts and `null` are kept as they are written. -/
theorem Stands.canonical {member : Option Json} {given : Option String} (stands : Stands member given) :
    Stands (member.map Json.canonical) given := by
  cases given with
  | some text =>
    rw [stands]
    rfl
  | none =>
    rcases stands with rfl | rfl
    · exact .inl rfl
    · exact .inr rfl

end Fields

/-- A file is taken from an object that has its name and its content as texts. -/
theorem fileFromObject_eq {q : FileRequest} (named : q.fileName ≠ "") {o : Json.Object}
    (name : o.get? "file_name" = some (.string q.fileName))
    (content : o.get? "file_content" = some (.string q.fileContent))
    (type : Stands (o.get? "file_type") q.fileType)
    (related : Stands (o.get? "related_id") q.relatedId) : fileFromObject o = .ok q := by
  have present : requireFields o ["file_name", "file_content"] = .ok () := by
    apply requireFields_of_present
    simp [name, content]
  simp only [fileFromObject, present, stringField_of_string name, stringField_of_string content,
    optionalString_of_stands type, optionalString_of_stands related, named, bind, Except.bind,
    ↓reduceIte]
  rfl

namespace Upload

variable {u : Upload} {r : Http.Request} (defaults : Defaults) (draws : Draws)

theorem filePayload_request (uploadTime : Time.Instant) :
    Template.filePayload defaults uploadTime u.request = .ok (u.payload defaults uploadTime) := by
  simp only [Template.filePayload, request, Base64.decodeText_text]
  rfl

theorem fileFromForm_eq (named : u.name ≠ "") {form : Http.Form}
    (file : form.file = some ⟨u.name, u.content⟩) (type : form.field "file_type" = u.fileType)
    (related : form.field "related_id" = u.relatedId) : fileFromForm form = .ok u.request := by
  simp only [fileFromForm, file, named, type, related, ↓reduceIte]
  rfl

theorem InForm.prepare (named : u.name ≠ "") (inForm : u.InForm r) :
    Route.fileUpload.prepare defaults draws r = .ok (u.prepared defaults draws) := by
  obtain ⟨form, read, file, type, related⟩ := inForm.form
  have request := fileFromForm_eq named file type related
  simp only [Route.prepare, prepareFile, inForm.kind, read, request, filePayload_request, bind,
    Except.bind]
  rfl

theorem InObject.prepare (named : u.name ≠ "") (inObject : u.InObject r) :
    Route.fileUpload.prepare defaults draws r = .ok (u.prepared defaults draws) := by
  obtain ⟨members, hands, name, content, type, related⟩ := inObject.object
  obtain ⟨o, read, found⟩ := hands.readObject
  have request : fileFromObject o = .ok u.request := by
    apply fileFromObject_eq named
    · rw [found, name]
      rfl
    · rw [found, content]
      rfl
    · rw [found]
      exact type.canonical
    · rw [found]
      exact related.canonical
  simp only [Route.prepare, prepareFile, hands.kind rfl, read, request, filePayload_request, bind,
    Except.bind]
  rfl

/-- A file that came in a form is small enough to be counted. -/
theorem InForm.small (inForm : u.InForm r) : u.content.length < 2 ^ 64 := by
  obtain ⟨form, read, file, _⟩ := inForm.form
  have inside : u.content.length ≤ bodyLimit :=
    Http.Form.length_content_le (mapError_eq_ok read) file
  exact Nat.lt_of_le_of_lt inside (by decide)

theorem fileSize_payload (small : u.content.length < 2 ^ 64) (uploadTime : Time.Instant) :
    (u.payload defaults uploadTime).fileSize.toNat = u.content.length :=
  UInt64.toNat_ofNat_of_lt' small

theorem member?_answer (small : u.content.length < 2 ^ 64) (messageId : Uuid) :
    (u.answer messageId).member? "file_size" = some (.number (.ofNat u.content.length small)) := by
  have size : sizeNumber (UInt64.ofNat u.content.length) = .ofNat u.content.length small := by
    simp only [sizeNumber, UInt64.toNat_ofNat_of_lt' small]
  rw [← size]
  rfl

end Upload

namespace Upload

/-- The file is published and answered for. -/
structure Taken (u : Upload) (defaults : Defaults) (draws : Draws) (before : Memory)
    (served : Http.Answer × Memory) : Prop where
  answer : served.1 = jsonAnswer 200 (u.answer draws.stamp.messageId)
  published : ∃ message, served.2.published = before.published ++ [message] ∧
    message.envelope.payload = .fileUpload (u.payload defaults draws.uploadTime)

structure Lost (before : Memory) (served : Http.Answer × Memory) : Prop where
  answer : served.1 = errorAnswer 500 "failed to send file upload"
  published : served.2.published = before.published

variable {s : Settings} {topology : Topology} {draws : Draws} {u : Upload} {r : Http.Request}

theorem serve_cases (posted : r.method = "POST") (path : Route.ofPath? r.route = some .fileUpload)
    (ready : Route.fileUpload.prepare s.defaults draws r = .ok (u.prepared s.defaults draws))
    (broker : Memory) :
    ((broker.Refuses topology ∨ broker.failPublish = true) ∧
      Lost broker (serve s topology draws r broker)) ∨
    (¬broker.Refuses topology ∧ broker.failPublish = false ∧
      u.Taken s.defaults draws broker (serve s topology draws r broker)) := by
  rcases serve_cases_of_ready topology broker posted path ready rfl with
    ⟨fails, failed, same⟩ | ⟨accepts, switch, served⟩
  · exact .inl ⟨fails, failed, same⟩
  · refine .inr ⟨accepts, switch, ?_⟩
    rw [served]
    exact ⟨rfl, _, rfl, rfl⟩

end Upload

variable (s : Settings)

/-- A file that is uploaded in a form and the same file in an object are served alike by every
gateway. On brokers that are alike both are lost, or both are published and answered for: what is
published is the same but for the time of the upload, and what is answered but for the message id. The
size is that of the content, and the content can be had back from what is published. -/
theorem uploads_agree {u : Upload} (named : u.name ≠ "") {form object : Http.Request}
    (inForm : u.InForm form) (inObject : u.InObject object) :
    (∀ {σ ρ φ : Type} (c : Connector σ ρ φ) (draws : Draws) (broker : σ),
      handle s c draws form broker = handle s c draws object broker) ∧
    (∀ (topology : Topology) {a b : Memory}, Memory.Alike topology a b → ∀ d₁ d₂ : Draws,
      let first := serve s topology d₁ form a
      let second := serve s topology d₂ object b
      ((a.Refuses topology ∨ a.failPublish = true) ∧ Upload.Lost a first ∧ Upload.Lost b second) ∨
      (¬a.Refuses topology ∧ a.failPublish = false ∧
        u.Taken s.defaults d₁ a first ∧ u.Taken s.defaults d₂ b second)) ∧
    (∃ small, ∀ messageId, (u.answer messageId).member? "file_size" =
      some (.number (.ofNat u.content.length small))) ∧
    ∀ uploadTime, (u.payload s.defaults uploadTime).fileSize.toNat = u.content.length ∧
      Base64.decodeText (u.payload s.defaults uploadTime).fileContent = .ok u.content := by
  obtain ⟨members, hands, _⟩ := inObject.object
  refine ⟨fun c draws broker => ?_, fun topology a b alike d₁ d₂ => ?_,
    ⟨inForm.small, Upload.member?_answer inForm.small⟩, fun uploadTime => ?_⟩
  · have same : Route.fileUpload.prepare s.defaults draws form =
        Route.fileUpload.prepare s.defaults draws object :=
      (inForm.prepare s.defaults draws named).trans (inObject.prepare s.defaults draws named).symm
    exact handle_congr s inForm.posted hands.posted inForm.path hands.path same c broker
  · rcases Upload.serve_cases inForm.posted inForm.path (inForm.prepare s.defaults d₁ named) a with
      ⟨fails, lost⟩ | ⟨accepts, switch, taken⟩ <;>
    rcases Upload.serve_cases hands.posted hands.path (inObject.prepare s.defaults d₂ named) b with
      ⟨fails', lost'⟩ | ⟨accepts', switch', taken'⟩
    · exact .inl ⟨fails, lost, lost'⟩
    · rw [alike.refuses, alike.failPublish] at fails
      rcases fails with refuses | opposite
      · exact absurd refuses accepts'
      · cases switch'.symm.trans opposite
    · rw [← alike.refuses, ← alike.failPublish] at fails'
      rcases fails' with refuses | opposite
      · exact absurd refuses accepts
      · cases switch.symm.trans opposite
    · exact .inr ⟨accepts, switch, taken, taken'⟩
  · exact ⟨Upload.fileSize_payload s.defaults inForm.small uploadTime,
      Base64.decodeText_text u.content⟩

/-- A file of three bytes that are no text, uploaded with an identifier and without a type. -/
theorem binary_upload_agrees :
    let u : Upload := ⟨"a.bin", [0xff, 0x00, 0x0d], none, some "s1"⟩
    let form : Http.Request := {
      method := "POST"
      path := "/api/file/upload"
      headers := [("content-type", "multipart/form-data; boundary=x".toUTF8.data.toList)]
      body := "--x\r\ncontent-disposition: form-data; name=\"file\"; filename=\"a.bin\"\r\n\r\n".toUTF8 ++
        ⟨u.content.toArray⟩ ++
        "\r\n--x\r\ncontent-disposition: form-data; name=\"related_id\"\r\n\r\ns1\r\n--x--\r\n".toUTF8 }
    let object : Http.Request := {
      method := "POST"
      path := "/api/file/upload"
      headers := [("content-type", "application/json".toUTF8.data.toList)]
      body := "\x7b\"file_name\":\"a.bin\",\"file_content\":\"/wAN\",\"file_type\":null,
        \"related_id\":\"s1\"\x7d".toUTF8 }
    u.name ≠ "" ∧ u.InForm form ∧ u.InObject object ∧
    u.Taken .builtIn zeroDraws .fresh (serve strictSettings .standard zeroDraws form .fresh) ∧
    u.Taken .builtIn zeroDraws .fresh (serve strictSettings .standard zeroDraws object .fresh) ∧
    (u.payload .builtIn Wire.epoch).fileSize = 3 := by
  intro u form object
  have named : u.name ≠ "" := by decide
  have inForm : u.InForm form := by
    have read : readForm form = .ok ⟨some ⟨u.name, u.content⟩, [("related_id", "s1")]⟩ := by
      decide +kernel
    exact ⟨rfl, by decide +kernel, by decide +kernel, _, read, rfl, rfl, rfl⟩
  have inObject : u.InObject object := by
    have hands : Hands .fileUpload object [("file_name", .string "a.bin"),
        ("file_content", .string "/wAN"), ("file_type", .null), ("related_id", .string "s1")] :=
      ⟨rfl, by decide +kernel, fun _ => by decide +kernel, by decide +kernel, by decide +kernel⟩
    exact ⟨_, hands, rfl, by decide +kernel, .inr rfl, rfl⟩
  obtain ⟨_, agree, _, size⟩ := uploads_agree strictSettings named inForm inObject
  rcases agree .standard (Memory.Alike.refl .fresh) zeroDraws zeroDraws with
    ⟨(opposite | ⟨_, declared, _⟩) | opposite, _⟩ | ⟨_, _, first, second⟩
  · exact absurd opposite (by decide)
  · exact absurd declared nofun
  · exact absurd opposite (by decide)
  · exact ⟨named, inForm, inObject, first, second,
      UInt64.toNat_inj.1 (size Wire.epoch).1⟩

end TopicGateway.Gateway
