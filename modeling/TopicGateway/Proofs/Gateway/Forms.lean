import Mathlib.Control.Monad.Basic
import TopicGateway.Gateway.Route
import TopicGateway.Proofs.Http.Parts

/-! The form of a request. It holds the first part of every name, whatever stands between them, and it
is there only if every part could be read. -/
namespace TopicGateway.Gateway

open Http (Form Part)
open Http.Form (named)
open Http.Multipart (Run cutAt? dashes nextHead readContent)

/-- The file of a form is the first part named `file`, with its bytes, and a text is the first part of
its name, where the file does not count: the form is the same however parts of different names are
put among one another. What a request yields is made a form if it was read to the end; a fault at any
place, in the headers or in the content of a part, leaves nothing but a refusal of the body. -/
theorem form_of_first_parts :
    (∀ parts : List Part,
      (Form.ofParts parts).file =
        (named "file" parts)[0]?.map (fun p => ⟨p.fileName.getD "", p.content⟩) ∧
      (Form.ofParts parts).field "file" =
        (named "file" parts)[1]?.map (fun p => p.charset.decode p.content) ∧
      (∀ name ≠ "file", (Form.ofParts parts).field name =
        (named name parts)[0]?.map fun p => p.charset.decode p.content) ∧
      ((Form.ofParts parts).fields.map Prod.fst).Nodup) ∧
    (∀ parts others : List Part, (∀ name, named name parts = named name others) →
      (Form.ofParts parts).file = (Form.ofParts others).file ∧
      ∀ name, (Form.ofParts parts).field name = (Form.ofParts others).field name) ∧
    (∀ (r : Http.Request) (parts : List Part) (ending : Option Http.Multipart.Fault),
      Run bodyLimit r parts ending →
      readForm r = match ending with
        | none => .ok (Form.ofParts parts)
        | some fault => .error (.malformedBody fault.message)) ∧
    ∀ r : Http.Request, ∃ parts ending, Run bodyLimit r parts ending := by
  refine ⟨fun parts => ⟨?_, ?_, fun name other => ?_,
      Form.nodup_foldl_add .empty parts (by simp [Form.empty])⟩,
    fun parts others same => ⟨?_, fun name => ?_⟩, fun r parts ending run => ?_,
    Http.Multipart.exists_run bodyLimit⟩
  · rw [Form.file_ofParts, List.head?_eq_getElem?]
    rfl
  · rw [Form.field_ofParts, Form.textParts, if_pos ⟨rfl, rfl⟩, List.head?_tail]
    rfl
  · rw [Form.field_ofParts, Form.textParts, if_neg (fun file => other file.1), List.head?_eq_getElem?]
    rfl
  · rw [Form.file_ofParts, Form.file_ofParts, same]
  · rw [Form.field_ofParts, Form.field_ofParts, Form.textParts, Form.textParts, same]
  · rw [readForm, Form.read, run.read_eq]
    cases ending <;> rfl

def note (name content : String) : Part :=
  ⟨some name, none, .utf8, Text.Utf8.encode content⟩

def headed (name rest : String) : String :=
  "\r\ncontent-disposition: form-data; name=\"" ++ name ++ "\"\r\n\r\n" ++ rest

/-- A request with a note, and a file whose bytes are not complete. -/
def brokenOff : Http.Request where
  method := "POST"
  path := "/api/file/upload"
  headers := [("content-type", "multipart/form-data; boundary=x".toUTF8.data.toList)]
  body := ("--x" ++ headed "a" ("one\r\n--x" ++ headed "file" "bytes")).toUTF8

theorem run_brokenOff :
    Run bodyLimit brokenOff [note "a" "one"] (some (.incompletePart (some "file"))) := by
  have first : cutAt? (dashes ++ Text.Utf8.encode "x") brokenOff.body.data.toList =
      some ([], Text.Utf8.encode (headed "a" ("one\r\n--x" ++ headed "file" "bytes"))) := by
    decide +kernel
  have head : nextHead (Text.Utf8.encode (headed "a" ("one\r\n--x" ++ headed "file" "bytes"))) =
      .ok (some (⟨some "a", none, .utf8⟩,
        Text.Utf8.encode ("one\r\n--x" ++ headed "file" "bytes"))) := by decide +kernel
  have content : readContent (Text.Utf8.encode "x") ⟨some "a", none, .utf8⟩
      (Text.Utf8.encode ("one\r\n--x" ++ headed "file" "bytes")) =
      .ok (note "a" "one", Text.Utf8.encode (headed "file" "bytes")) := by decide +kernel
  have next : nextHead (Text.Utf8.encode (headed "file" "bytes")) =
      .ok (some (⟨some "file", none, .utf8⟩, Text.Utf8.encode "bytes")) := by decide +kernel
  have lost : readContent (Text.Utf8.encode "x") ⟨some "file", none, .utf8⟩
      (Text.Utf8.encode "bytes") = .error (.incompletePart (some "file")) := by decide +kernel
  exact .opened (by decide +kernel) (by decide +kernel) first
    (.part head content (.noContent next lost))

/-- Three notes and two files without names are one form in two orders, and where the file behind a
note is broken off, there is none. -/
theorem broken_off_form_refused :
    let parts := [note "a" "one", note "file" "first", note "a" "two", note "file" "second"]
    let others := [note "file" "first", note "file" "second", note "a" "one", note "a" "two"]
    (∀ name, named name parts = named name others) ∧
    (Form.ofParts parts).file = some ⟨"", Text.Utf8.encode "first"⟩ ∧
    (Form.ofParts others).file = some ⟨"", Text.Utf8.encode "first"⟩ ∧
    (Form.ofParts others).field "file" = some "second" ∧
    (Form.ofParts others).field "a" = some "one" ∧
    Run bodyLimit brokenOff [note "a" "one"] (some (.incompletePart (some "file"))) ∧
    readForm brokenOff = .error (.malformedBody "field \"file\" received with incomplete data") := by
  intro parts others
  obtain ⟨first, order, read, _⟩ := form_of_first_parts
  have same : ∀ name, named name parts = named name others := by
    intro name
    by_cases file : "file" = name
    · subst file
      rfl
    by_cases a : "a" = name
    · subst a
      rfl
    · simp [parts, others, named, Http.Form.isNamed, Http.Form.nameOf, note, file, a]
  obtain ⟨file, _, _⟩ := first parts
  obtain ⟨moved, texts⟩ := order parts others same
  obtain ⟨_, second, text, _⟩ := first others
  refine ⟨same, file, moved.symm.trans file, ?_, ?_, run_brokenOff, ?_⟩
  · exact second.trans (by decide +kernel)
  · exact (text "a" (by decide)).trans (by decide +kernel)
  · have message : (Http.Multipart.Fault.incompletePart (some "file")).message =
        "field \"file\" received with incomplete data" := by decide +kernel
    rw [read brokenOff _ _ run_brokenOff, ← message]

end TopicGateway.Gateway
