import TopicGateway.Proofs.Http.Form

/-! A multipart body part by part. Behind each boundary stands the end or a part, whose headers are read
before its content; a fault in either ends the reading wherever it comes up. Reading a body collects
what this run yields, and every body has one run. -/
namespace TopicGateway.Http.Multipart

structure Head where
  name : Option String
  fileName : Option String
  charset : Text.Charset
  deriving DecidableEq

def readHead (input : List UInt8) : Except Fault (Head × List UInt8) :=
  let rest := input.dropWhile isBlankByte
  if lineBreak.isPrefixOf rest then
    match cutAt? (lineBreak ++ lineBreak) (rest.drop lineBreak.length) with
    | none => .error .incomplete
    | some (headerBytes, rest) =>
      match headersWithin? headerLimit (headerBytes ++ lineBreak ++ lineBreak) with
      | none => .error .badHeaders
      | some headers =>
        let disposition := (lastHeader? headers "content-disposition").getD []
        .ok (⟨attribute? "name" disposition, attribute? "filename" disposition,
          charsetOf headers⟩, rest)
  else .error .incomplete

def nextHead : List UInt8 → Except Fault (Option (Head × List UInt8))
  | [] | [_] => .error .incomplete
  | 0x2d :: 0x2d :: _ => .ok none
  | input => (readHead input).map some

/-- The part with its content, which ends at the next boundary, and what stands behind that. -/
def readContent (boundary : List UInt8) (head : Head) (input : List UInt8) :
    Except Fault (Part × List UInt8) :=
  match cutAt? (lineBreak ++ dashes ++ boundary) input with
  | none => .error (.incompletePart head.name)
  | some (content, rest) => .ok (⟨head.name, head.fileName, head.charset, content⟩, rest)

/-- The parts behind a boundary one after the other, up to their end or to the first fault. -/
inductive Yields (boundary : List UInt8) : List UInt8 → List Part → Option Fault → Prop
  | finished {input} (last : nextHead input = .ok none) : Yields boundary input [] none
  | noHead {input fault} (lost : nextHead input = .error fault) :
      Yields boundary input [] (some fault)
  | noContent {input head behind fault} (next : nextHead input = .ok (some (head, behind)))
      (lost : readContent boundary head behind = .error fault) :
      Yields boundary input [] (some fault)
  | part {input head behind p rest ps ending} (next : nextHead input = .ok (some (head, behind)))
      (read : readContent boundary head behind = .ok (p, rest))
      (others : Yields boundary rest ps ending) : Yields boundary input (p :: ps) ending

/-- What a request yields whose body may have up to `limit` bytes. Nothing is read of it without a
boundary, or if it is too large; what stands in front of the first boundary is passed over. -/
inductive Run (limit : Nat) (r : Request) : List Part → Option Fault → Prop
  | noBoundary (none : boundary? r.contentType? = .none) : Run limit r [] (some .noBoundary)
  | tooLarge {boundary} (named : boundary? r.contentType? = some boundary)
      (large : limit < r.body.size) : Run limit r [] (some .unreadable)
  | unopened {boundary} (named : boundary? r.contentType? = some boundary)
      (small : r.body.size ≤ limit)
      (none : cutAt? (dashes ++ Text.Utf8.encode boundary) r.body.data.toList = .none) :
      Run limit r [] (some .incomplete)
  | opened {boundary before rest ps ending} (named : boundary? r.contentType? = some boundary)
      (small : r.body.size ≤ limit)
      (first : cutAt? (dashes ++ Text.Utf8.encode boundary) r.body.data.toList = some (before, rest))
      (yields : Yields (Text.Utf8.encode boundary) rest ps ending) : Run limit r ps ending

def collected (ps : List Part) : Option Fault → Except Fault (List Part)
  | none => .ok ps
  | some fault => .error fault

section Steps

variable {boundary input behind rest : List UInt8} {fuel : Nat} {seen ps : List Part}
variable {head : Head} {p : Part} {ending : Option Fault}

/-- What is read from a boundary on, by the step that comes next. -/
theorem partsWithin_succ (boundary : List UInt8) (fuel : Nat) (seen : List Part)
    (input : List UInt8) :
    partsWithin boundary (fuel + 1) seen input =
      match nextHead input with
      | .error fault => .error fault
      | .ok none => .ok seen.reverse
      | .ok (some (head, behind)) =>
        match readContent boundary head behind with
        | .error fault => .error fault
        | .ok (p, rest) => partsWithin boundary fuel (p :: seen) rest := by
  conv => lhs; unfold partsWithin
  split
  · rfl
  · rfl
  · rfl
  · next empty short last =>
    have head : nextHead input = (readHead input).map some := nextHead.eq_4 input empty short last
    rw [head, readHead]
    dsimp only
    by_cases line : lineBreak.isPrefixOf (input.dropWhile isBlankByte) = true
    · rw [if_pos line, if_pos line]
      rcases cutAt? (lineBreak ++ lineBreak)
        ((input.dropWhile isBlankByte).drop lineBreak.length) with _ | ⟨headerBytes, rest⟩
      · rfl
      · dsimp only
        rcases headersWithin? headerLimit (headerBytes ++ lineBreak ++ lineBreak) with _ | headers
        · rfl
        · dsimp only [Except.map, readContent]
          rcases cutAt? (lineBreak ++ dashes ++ boundary) rest with _ | ⟨content, rest⟩ <;> rfl
    · rw [if_neg line, if_neg line]
      rfl

theorem readHead_length (read : readHead input = .ok (head, behind)) :
    behind.length < input.length := by
  unfold readHead at read
  dsimp only at read
  split at read
  · next line =>
    split at read
    · cases read
    · next cut =>
      split at read
      · cases read
      · cases read
        -- The line break in front of the headers is at least one byte.
        have blanks := (List.dropWhile_sublist isBlankByte (l := input)).length_le
        have opened := (List.isPrefixOf_iff_prefix.1 line).length_le
        have header := cutAt?_length cut
        simp only [lineBreak, List.length_drop, List.length_cons, List.length_nil] at opened header
        omega
  · cases read

theorem nextHead_length (next : nextHead input = .ok (some (head, behind))) :
    behind.length < input.length := by
  unfold nextHead at next
  split at next
  · cases next
  · cases next
  · cases next
  · cases read : readHead input with
    | error fault =>
      rw [read] at next
      cases next
    | ok found =>
      rw [read] at next
      cases next
      exact readHead_length read

theorem readContent_length (read : readContent boundary head behind = .ok (p, rest)) :
    rest.length ≤ behind.length := by
  unfold readContent at read
  split at read
  · cases read
  · next cut =>
    cases read
    have content := cutAt?_length cut
    omega

/-- Every part takes at least one byte, so the steps last for all of them. -/
theorem Yields.partsWithin_eq (yields : Yields boundary input ps ending)
    (enough : input.length < fuel) :
    partsWithin boundary fuel seen input = collected (seen.reverse ++ ps) ending := by
  induction yields generalizing fuel seen with
  | finished last =>
    obtain ⟨fuel, rfl⟩ := Nat.exists_eq_add_one.2 (Nat.zero_lt_of_lt enough)
    rw [partsWithin_succ, last, List.append_nil]
    rfl
  | noHead lost =>
    obtain ⟨fuel, rfl⟩ := Nat.exists_eq_add_one.2 (Nat.zero_lt_of_lt enough)
    rw [partsWithin_succ, lost]
    rfl
  | noContent next lost =>
    obtain ⟨fuel, rfl⟩ := Nat.exists_eq_add_one.2 (Nat.zero_lt_of_lt enough)
    simp only [partsWithin_succ, next, lost]
    rfl
  | part next read _ ih =>
    obtain ⟨fuel, rfl⟩ := Nat.exists_eq_add_one.2 (Nat.zero_lt_of_lt enough)
    have head := nextHead_length next
    have content := readContent_length read
    simp only [partsWithin_succ, next, read]
    rw [ih (by omega), List.reverse_cons, List.append_assoc]
    rfl

theorem exists_yields (boundary : List UInt8) (input : List UInt8) :
    ∃ ps ending, Yields boundary input ps ending := by
  induction size : input.length using Nat.strongRecOn generalizing input with
  | _ size ih =>
    subst size
    rcases next : nextHead input with fault | _ | ⟨head, behind⟩
    · exact ⟨[], some fault, .noHead next⟩
    · exact ⟨[], none, .finished next⟩
    · rcases read : readContent boundary head behind with fault | ⟨p, rest⟩
      · exact ⟨[], some fault, .noContent next read⟩
      · have shorter := Nat.lt_of_le_of_lt (readContent_length read) (nextHead_length next)
        obtain ⟨ps, ending, others⟩ := ih _ shorter rest rfl
        exact ⟨p :: ps, ending, .part next read others⟩

end Steps

section Requests

variable {limit : Nat} {r : Request} {ps : List Part} {ending : Option Fault}

theorem Run.read_eq (run : Run limit r ps ending) : read limit r = collected ps ending := by
  cases run with
  | noBoundary none => simp only [read, none, collected]
  | tooLarge named large => simp only [read, named, if_pos large, collected]
  | unopened named small none =>
    simp only [read, named, if_neg (Nat.not_lt.2 small), parts, none, collected]
  | @opened boundary before rest _ _ named small first yields =>
    have inside := cutAt?_length first
    have enough : rest.length < r.body.data.toList.length + 1 := by omega
    simp only [read, named, if_neg (Nat.not_lt.2 small), parts, first]
    exact yields.partsWithin_eq enough

theorem exists_run (limit : Nat) (r : Request) : ∃ ps ending, Run limit r ps ending := by
  rcases named : boundary? r.contentType? with _ | boundary
  · exact ⟨[], _, .noBoundary named⟩
  rcases Nat.lt_or_ge limit r.body.size with large | small
  · exact ⟨[], _, .tooLarge named large⟩
  rcases first : cutAt? (dashes ++ Text.Utf8.encode boundary) r.body.data.toList with
    _ | ⟨before, rest⟩
  · exact ⟨[], _, .unopened named small first⟩
  · obtain ⟨ps, ending, yields⟩ := exists_yields (Text.Utf8.encode boundary) rest
    exact ⟨ps, ending, .opened named small first yields⟩

end Requests

end TopicGateway.Http.Multipart
