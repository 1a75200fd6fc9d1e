import TopicGateway.Http.Form

/-! What a form holds, and how much. A part is cut out of the body, and a file is the content of a part:
it is no longer than the body it came in. Of the parts named `file` the first is the file, and the
others count as texts; of the texts of one name a form holds the first. -/
namespace TopicGateway.Http

namespace Multipart

theorem splitAtPattern?_length {pattern seen input before rest : List UInt8}
    (split : splitAtPattern? pattern seen input = some (before, rest)) :
    before.length + rest.length = seen.length + input.length := by
  induction input generalizing seen with
  | nil =>
    rw [splitAtPattern?] at split
    split at split
    · cases split
      simp
    · cases split
  | cons b input ih =>
    rw [splitAtPattern?] at split
    split at split
    · cases split
      simp
    · have later := ih split
      simp only [List.length_cons] at later ⊢
      omega

theorem cutAt?_length {pattern input before rest : List UInt8}
    (cut : cutAt? pattern input = some (before, rest)) :
    before.length + rest.length ≤ input.length := by
  obtain ⟨⟨front, back⟩, split, eq⟩ := Option.map_eq_some_iff.1 cut
  cases eq
  have whole := splitAtPattern?_length split
  simp only [List.length_drop, List.length_nil] at whole ⊢
  omega

/-- Every part is one of those before, or its content is in the input. -/
theorem content_of_partsWithin {boundary : List UInt8} {fuel : Nat} {seen ps : List Part}
    {input : List UInt8} (read : partsWithin boundary fuel seen input = .ok ps) :
    ∀ p ∈ ps, p ∈ seen ∨ p.content.length ≤ input.length := by
  induction fuel generalizing seen input with
  | zero => cases read
  | succ fuel ih =>
    unfold partsWithin at read
    split at read
    · cases read
    · cases read
    · cases read
      exact fun p member => .inl (List.mem_reverse.1 member)
    · dsimp only at read
      split at read
      · split at read
        · cases read
        · next headerBytes rest headed =>
          split at read
          · cases read
          · split at read
            · cases read
            · next content left cut =>
              -- Blanks, the line break, the headers and the content stand one behind the other.
              have blanks := (List.dropWhile_sublist isBlankByte (l := input)).length_le
              have header := cutAt?_length headed
              have part := cutAt?_length cut
              rw [List.length_drop] at header
              intro p member
              rcases ih read p member with found | short
              · rcases List.mem_cons.1 found with rfl | before
                · exact .inr (by dsimp only; omega)
                · exact .inl before
              · exact .inr (by omega)
      · cases read

theorem content_of_parts {boundary : String} {body : List UInt8} {ps : List Part}
    (read : parts boundary body = .ok ps) : ∀ p ∈ ps, p.content.length ≤ body.length := by
  unfold parts at read
  dsimp only at read
  split at read
  · cases read
  · next before rest cut =>
    intro p member
    have inside := cutAt?_length cut
    rcases content_of_partsWithin read p member with none | short
    · cases none
    · omega

theorem content_of_read {limit : Nat} {r : Request} {ps : List Part} (found : read limit r = .ok ps) :
    r.body.size ≤ limit ∧ ∀ p ∈ ps, p.content.length ≤ r.body.size := by
  unfold read at found
  split at found
  · cases found
  · split at found
    · cases found
    · next small =>
      exact ⟨Nat.not_lt.1 small, content_of_parts found⟩

end Multipart

namespace Form

/-- The file of a form is the content of a part. -/
theorem file_of_foldl {parts : List Part} {form : Form} {file : UploadedFile}
    (found : (parts.foldl add form).file = some file) :
    form.file = some file ∨ ∃ p ∈ parts, p.content = file.content := by
  induction parts generalizing form with
  | nil => exact .inl found
  | cons p parts ih =>
    rcases ih found with now | ⟨q, later, same⟩
    · unfold add at now
      split at now
      · cases now
        exact .inr ⟨p, List.mem_cons_self .., rfl⟩
      · split at now <;> exact .inl now
    · exact .inr ⟨q, List.mem_cons_of_mem p later, same⟩

theorem length_content_le {limit : Nat} {r : Request} {form : Form} {file : UploadedFile}
    (found : read limit r = .ok form) (uploaded : form.file = some file) :
    file.content.length ≤ limit := by
  unfold read at found
  cases parts : Multipart.read limit r with
  | error fault =>
    rw [parts] at found
    cases found
  | ok ps =>
    rw [parts] at found
    cases found
    obtain ⟨small, inside⟩ := Multipart.content_of_read parts
    rcases file_of_foldl uploaded with none | ⟨p, member, same⟩
    · cases none
    · rw [← same]
      exact Nat.le_trans (inside p member) small

def isNamed (name : String) (p : Part) : Bool :=
  nameOf p = name

def named (name : String) (parts : List Part) : List Part :=
  parts.filter (isNamed name)

def uploaded (p : Part) : UploadedFile :=
  ⟨p.fileName.getD "", p.content⟩

def decoded (p : Part) : String :=
  p.charset.decode p.content

/-- The parts that are texts of this name, in a form that has a file or not yet. -/
def textParts (hasFile : Bool) (name : String) (parts : List Part) : List Part :=
  if name = "file" ∧ hasFile = false then (named name parts).tail else named name parts

section FirstParts

variable (form : Form) (p : Part) (parts : List Part) (name : String)

theorem file_add :
    (form.add p).file = form.file.or (if isNamed "file" p then some (uploaded p) else none) := by
  unfold add isNamed
  cases held : form.file with
  | some file =>
    rw [if_neg (by simp)]
    split <;> simp [held]
  | none =>
    by_cases file : nameOf p = "file"
    · simp [file, uploaded]
    · simp only [file, false_and, if_false, decide_false, Bool.false_eq_true, Option.or_none]
      split <;> simp [held]

theorem file_foldl_add :
    (parts.foldl add form).file = form.file.or ((named "file" parts).head?.map uploaded) := by
  induction parts generalizing form with
  | nil => simp [named]
  | cons p parts ih =>
    rw [List.foldl_cons, ih, file_add, Option.or_assoc, named, named, List.filter_cons]
    cases isNamed "file" p <;> simp

theorem textParts_cons (hasFile : Bool) : textParts hasFile name (p :: parts) =
    textParts hasFile name [p] ++ textParts (hasFile || isNamed "file" p) name parts := by
  by_cases file : name = "file"
  · subst file
    cases hasFile <;> cases called : isNamed "file" p <;> simp [textParts, named, called]
  · cases called : isNamed name p <;> simp [textParts, file, named, called]

theorem field_add :
    (form.add p).field name = (form.field name).or
      ((textParts form.file.isSome name [p]).head?.map decoded) := by
  unfold add
  split
  · next first =>
    -- The first file leaves the texts, and is none of them.
    obtain ⟨file, none⟩ := first
    have absent : textParts form.file.isSome name [p] = [] := by
      by_cases same : name = "file"
      · simp [textParts, named, isNamed, same, none, file]
      · simp [textParts, named, isNamed, same, file, Ne.symm same]
    rw [absent]
    simp [field]
  · next other =>
    have counted : textParts form.file.isSome name [p] = if nameOf p = name then [p] else [] := by
      by_cases same : nameOf p = name
      · subst same
        simpa [textParts, named, isNamed] using other
      · simp [textParts, named, isNamed, same]
    rw [counted]
    by_cases same : nameOf p = name
    · subst same
      split
      · next given =>
        obtain ⟨text, held⟩ := Option.isSome_iff_exists.1 given
        simp [held]
      · simp [field, List.lookup_append, decoded]
    · have different : (name == nameOf p) = false := beq_eq_false_iff_ne.2 (Ne.symm same)
      split <;> simp [field, List.lookup_append, List.lookup_cons, different]

theorem field_foldl_add :
    (parts.foldl add form).field name = (form.field name).or
      ((textParts form.file.isSome name parts).head?.map decoded) := by
  induction parts generalizing form with
  | nil => simp [textParts, named]
  | cons p parts ih =>
    have file : (form.add p).file.isSome = (form.file.isSome || isNamed "file" p) := by
      rw [file_add]
      cases isNamed "file" p <;> simp
    rw [List.foldl_cons, ih, field_add, file, textParts_cons p parts name, List.head?_append,
      Option.map_or, Option.or_assoc]

theorem nodup_add (distinct : (form.fields.map Prod.fst).Nodup) :
    ((form.add p).fields.map Prod.fst).Nodup := by
  unfold add
  split
  · exact distinct
  split
  · exact distinct
  · next new =>
    have absent : ∀ text, (nameOf p, text) ∉ form.fields := by simpa [field] using new
    have apart : ∀ name ∈ form.fields.map Prod.fst, name ≠ nameOf p := by
      rintro name held rfl
      obtain ⟨⟨_, text⟩, inside, same⟩ := List.mem_map.1 held
      exact absent text (same ▸ inside)
    simpa [List.nodup_append, distinct] using apart

theorem nodup_foldl_add (distinct : (form.fields.map Prod.fst).Nodup) :
    ((parts.foldl add form).fields.map Prod.fst).Nodup := by
  induction parts generalizing form with
  | nil => exact distinct
  | cons p parts ih => exact ih _ (nodup_add form p distinct)

theorem file_ofParts : (ofParts parts).file = (named "file" parts).head?.map uploaded := by
  rw [ofParts, file_foldl_add]
  rfl

theorem field_ofParts :
    (ofParts parts).field name = (textParts false name parts).head?.map decoded := by
  rw [ofParts, field_foldl_add]
  rfl

end FirstParts

end Form

end TopicGateway.Http
