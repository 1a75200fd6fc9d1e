import TopicGateway.Proofs.Base64.Canonical
import TopicGateway.Proofs.Gateway.Uploads

/-! Which contents a file may be uploaded with. What has been written in base64 is taken as it stands,
and its size is that of the bytes it was written from; any other text is refused before a broker is
asked, whatever else the request says. -/
namespace TopicGateway

namespace Message.Template

variable (defaults : Defaults) (stamp : Stamp) (uploadTime : Time.Instant)

def file (q : FileRequest) (bytes : List UInt8) : FileUpload where
  fileName := q.fileName
  fileContent := q.fileContent
  fileType := q.fileType.getD defaults.fileType
  fileSize := UInt64.ofNat bytes.length
  relatedId := q.relatedId
  uploadTime := uploadTime

def Written (q : FileRequest) : Prop :=
  ∃ bytes, q.fileContent = Base64.text bytes

variable {q : FileRequest}

theorem filePayload_eq_error (unwritten : ¬Written q) :
    ∃ fault, Base64.decodeText q.fileContent = .error fault ∧
      ∀ defaults uploadTime, filePayload defaults uploadTime q = .error fault := by
  cases read : Base64.decodeText q.fileContent with
  | error fault => exact ⟨fault, rfl, fun _ _ => by simp only [filePayload, read]⟩
  | ok bytes => exact absurd ⟨bytes, Base64.decodeText_eq_ok_iff.1 read⟩ unwritten

theorem filePayload_eq_ok_iff {p : FileUpload} :
    filePayload defaults uploadTime q = .ok p ↔
      ∃ bytes, q.fileContent = Base64.text bytes ∧ p = file defaults uploadTime q bytes := by
  constructor
  · intro made
    unfold filePayload at made
    split at made
    · cases made
    · next bytes read =>
      cases made
      exact ⟨bytes, Base64.decodeText_eq_ok_iff.1 read, rfl⟩
  · rintro ⟨bytes, written, rfl⟩
    have read := Base64.decodeText_eq_ok_iff.2 written
    simp only [filePayload, read]
    rfl

theorem fileUpload_eq_ok_iff {e : Envelope} :
    fileUpload defaults stamp uploadTime q = .ok e ↔ ∃ bytes, q.fileContent = Base64.text bytes ∧
      e = ofKind stamp .fileUpload (.fileUpload (file defaults uploadTime q bytes)) := by
  unfold fileUpload
  constructor
  · intro made
    cases filled : filePayload defaults uploadTime q with
    | error fault =>
      rw [filled] at made
      cases made
    | ok p =>
      rw [filled] at made
      cases made
      obtain ⟨bytes, written, rfl⟩ := (filePayload_eq_ok_iff defaults uploadTime).1 filled
      exact ⟨bytes, written, rfl⟩
  · rintro ⟨bytes, written, rfl⟩
    rw [(filePayload_eq_ok_iff defaults uploadTime).2 ⟨bytes, written, rfl⟩]
    rfl

theorem written_iff_canonical : Written q ↔ Base64.Canonical (Text.Utf8.encode q.fileContent) := by
  rw [Base64.canonical_iff]
  simp only [Written, ← Base64.decodeText_eq_ok_iff, ← Base64.decode_eq_ok_iff, Base64.decodeText]

/-- Base64 is longer than what it writes, so a content that can be held has a size that can be told. -/
theorem fileSize_file {bytes : List UInt8} (written : q.fileContent = Base64.text bytes)
    (held : (Text.Utf8.encode q.fileContent).length < 2 ^ 64) :
    (file defaults uploadTime q bytes).fileSize.toNat = bytes.length := by
  rw [written, Base64.encode_text, Base64.length_encode] at held
  have small : bytes.length < 2 ^ 64 := by omega
  exact UInt64.toNat_ofNat_of_lt' small

end Message.Template

namespace Gateway

open Message
open Broker (Connector)

/-- The request has an object with this for the content of a file, whatever else is in it. -/
def Offers (content : String) (r : Http.Request) : Prop :=
  ∃ members, Hands .fileUpload r members ∧
    ((Json.object members).member? "file_content").bind asText = some content

/-- The object of the request is in order, and what it says is this file. -/
def Says (q : FileRequest) (r : Http.Request) : Prop :=
  ∃ o, readObject r = .ok o ∧ fileFromObject o = .ok q

section Refused

variable (defaults : Defaults) (draws : Draws) {r : Http.Request} {content : String}

theorem prepare_of_unwritten (offers : Offers content r)
    (unwritten : ∀ bytes, content ≠ Base64.text bytes) :
    ∃ refusal, Route.fileUpload.prepare defaults draws r = .error refusal := by
  obtain ⟨members, hands, given⟩ := offers
  cases prepared : Route.fileUpload.prepare defaults draws r with
  | error refusal => exact ⟨refusal, rfl⟩
  | ok p =>
    obtain ⟨q, file, reads, filled, _⟩ := prepareFile_eq_ok prepared
    obtain ⟨o, read, taken⟩ := reads (hands.kind rfl)
    obtain ⟨bytes, written, _⟩ := (Template.filePayload_eq_ok_iff defaults draws.uploadTime).1 filled
    obtain ⟨_, same, _⟩ := fileFromObject_eq_ok read taken
    rw [saidText?, said?, hands.object, given] at same
    exact absurd ((Option.some.inj same).trans written) (unwritten bytes)

theorem prepare_of_says {q : FileRequest} (offers : Offers content r) (said : Says q r)
    {fault : Base64.Fault}
    (refused : Template.filePayload defaults draws.uploadTime q = .error fault) :
    Route.fileUpload.prepare defaults draws r = .error (.template fault) := by
  obtain ⟨members, hands, _⟩ := offers
  obtain ⟨o, read, taken⟩ := said
  simp only [Route.prepare, prepareFile, hands.kind rfl, read, taken, refused, bind, Except.bind]
  rfl

end Refused

/-- A file is made of a content just when there are bytes that are written as this content in base64,
which shows in its form. There are no others then; the file has the content as it stands and their
number as its size. Of any other content no file is made, and a request that has it in its object is
answered with status 400 before a broker is asked, with the fault of the content where the object is
in order otherwise. -/
theorem file_content_decides (q : FileRequest) :
    (∀ defaults stamp uploadTime e, Template.fileUpload defaults stamp uploadTime q = .ok e ↔
      ∃ bytes, q.fileContent = Base64.text bytes ∧
        e = Template.ofKind stamp .fileUpload (.fileUpload (Template.file defaults uploadTime q bytes))) ∧
    (Template.Written q ↔ Base64.Canonical (Text.Utf8.encode q.fileContent)) ∧
    (∀ bytes, q.fileContent = Base64.text bytes →
      (∀ others, q.fileContent = Base64.text others → others = bytes) ∧
      ((Text.Utf8.encode q.fileContent).length < 2 ^ 64 → ∀ defaults uploadTime,
        (Template.file defaults uploadTime q bytes).fileSize.toNat = bytes.length)) ∧
    (¬Template.Written q → ∃ fault, Base64.decodeText q.fileContent = .error fault ∧
      (∀ defaults stamp uploadTime,
        Template.fileUpload defaults stamp uploadTime q = .error fault) ∧
      ∀ r, Offers q.fileContent r → ∀ (s : Settings) (draws : Draws), ∃ refusal : Refusal,
        refusal.status = 400 ∧ (Says q r → refusal = .template fault) ∧
        ∀ {σ ρ φ : Type} (c : Connector σ ρ φ) (broker : σ),
          handle s c draws r broker = (refusal.answer, broker)) := by
  refine ⟨fun defaults stamp uploadTime e => Template.fileUpload_eq_ok_iff defaults stamp uploadTime,
    Template.written_iff_canonical, fun bytes written => ⟨fun others same => ?_, fun held _ _ => ?_⟩,
    fun unwritten => ?_⟩
  · exact Base64.text_injective (same.symm.trans written)
  · exact Template.fileSize_file _ _ written held
  · obtain ⟨fault, read, refused⟩ := Template.filePayload_eq_error unwritten
    refine ⟨fault, read, fun defaults stamp uploadTime => ?_, fun r offers s draws => ?_⟩
    · rw [Template.fileUpload, refused]
      rfl
    · obtain ⟨refusal, prepared⟩ :=
        prepare_of_unwritten s.defaults draws offers (not_exists.1 unwritten)
      obtain ⟨members, hands, _⟩ := id offers
      refine ⟨refusal, prepare_faults s.defaults draws r _ refusal prepared, fun said => ?_,
        fun c broker => ?_⟩
      · have blamed := prepare_of_says s.defaults draws offers said (refused _ _)
        exact Except.error.inj (prepared.symm.trans blamed)
      · rw [handle_posted s hands.posted hands.path, publishAnswer, prepared]

/-- A letter without its fillers, as a file and in a request for one. -/
def unfilledLetter : FileRequest :=
  ⟨"a.txt", "YQ", none, none⟩

def unfilledLetterRequest : Http.Request where
  method := "POST"
  path := "/api/file/upload"
  headers := [("content-type", "application/json".toUTF8.data.toList)]
  body := "\x7b\"file_name\":\"a.txt\",\"file_content\":\"YQ\"\x7d".toUTF8

/-- With its fillers the letter is a file of one byte. Without them it is none, which the client is
told; the request would be in order otherwise. -/
theorem unfilled_letter_refused :
    (∃ e p, Template.fileUpload .builtIn zeroDraws.stamp Wire.epoch
        { unfilledLetter with fileContent := "YQ==" } = .ok e ∧ e.payload = .fileUpload p ∧
      p.fileContent = "YQ==" ∧ p.fileSize.toNat = 1) ∧
    ¬Template.Written unfilledLetter ∧ Offers "YQ" unfilledLetterRequest ∧
    Says unfilledLetter unfilledLetterRequest ∧
    ∀ {σ ρ φ : Type} (c : Connector σ ρ φ) (broker : σ),
      handle strictSettings c zeroDraws unfilledLetterRequest broker =
        (errorAnswer 400 "file_content is not valid base64: Invalid padding", broker) := by
  have written : "YQ==" = Base64.text [0x61] := by decide
  have unwritten : ¬Template.Written unfilledLetter := by
    rintro ⟨bytes, written⟩
    have read := Base64.decodeText_text bytes
    rw [← written] at read
    cases read
  have hands : Hands .fileUpload unfilledLetterRequest
      [("file_name", .string "a.txt"), ("file_content", .string "YQ")] :=
    ⟨rfl, by decide +kernel, fun _ => by decide +kernel, by decide +kernel, by decide +kernel⟩
  have offers : Offers "YQ" unfilledLetterRequest := ⟨_, hands, rfl⟩
  have said : Says unfilledLetter unfilledLetterRequest := by
    obtain ⟨o, read, found⟩ := hands.readObject
    exact ⟨o, read, fileFromObject_eq (by decide) (found _) (found _) (.inl (found _)) (.inl (found _))⟩
  obtain ⟨made, _, size, _⟩ :=
    file_content_decides { unfilledLetter with fileContent := "YQ==" }
  obtain ⟨_, _, _, refused⟩ := file_content_decides unfilledLetter
  obtain ⟨fault, read, _, handled⟩ := refused unwritten
  obtain ⟨refusal, _, blamed, answered⟩ := handled unfilledLetterRequest offers strictSettings zeroDraws
  obtain rfl := blamed said
  have padding : Base64.decodeText "YQ" = .error .badPadding := by decide +kernel
  cases read.symm.trans padding
  refine ⟨⟨_, _, (made _ _ _ _).2 ⟨_, written, rfl⟩, rfl, rfl, ?_⟩, unwritten, offers, said, answered⟩
  exact (size _ written).2 (by decide) _ _

end Gateway

end TopicGateway
