import TopicGateway.Number.Binary64
import TopicGateway.Text.Blank
import TopicGateway.Time.Instant

/-! Times as RFC 3339 text. `Instant.text` writes the canonical form: UTC with `Z`, and as many
groups of three fraction digits as are needed. `Instant.parse` is more lenient: blanks between the
parts, numbers with fewer digits and signed years of any length are read too. -/

namespace TopicGateway.Time

open Text (trimStart)

def padded (width n : Nat) : List Char :=
  let digits := Nat.toDigits 10 n
  List.replicate (width - digits.length) '0' ++ digits

/-- Four digits, or a sign and at least four outside the years 0 to 9999. -/
def yearChars (year : Int) : List Char :=
  if year < 0 then '-' :: padded 4 year.natAbs
  else if year ≤ 9999 then padded 4 year.natAbs
  else '+' :: padded 4 year.natAbs

def fractionChars (nanosecond : Nat) : List Char :=
  if nanosecond = 0 then []
  else if nanosecond % 1000000 = 0 then '.' :: padded 3 (nanosecond / 1000000)
  else if nanosecond % 1000 = 0 then '.' :: padded 6 (nanosecond / 1000)
  else '.' :: padded 9 nanosecond

def Instant.chars (t : Instant) : List Char :=
  yearChars t.date.year ++ '-' :: (padded 2 t.date.month ++ '-' :: (padded 2 t.date.day ++
    'T' :: (padded 2 t.hour ++ ':' :: (padded 2 t.minute ++ ':' :: (padded 2 t.second ++
      (fractionChars t.nanosecond ++ ['Z']))))))

def Instant.text (t : Instant) : String :=
  String.ofList t.chars

inductive Fault where
  | tooShort
  | invalid
  | outOfRange
  | tooLong
  | impossible
  deriving DecidableEq

def Fault.message : Fault → String
  | .tooShort => "premature end of input"
  | .invalid => "input contains invalid characters"
  | .outOfRange => "input is out of range"
  | .tooLong => "trailing input"
  | .impossible => "no possible date and time matching input"

/-- What a part of the text answers: its value and the characters after it. -/
abbrev Part (α : Type) := Except Fault (α × List Char)

def digitsValue (digits : List Char) : Nat :=
  digits.foldl (fun n d => n * 10 + (d.toNat - 48)) 0

/-- The leading digits, at most `width` of them if a width is given. -/
def leadingDigits (width : Option Nat) (cs : List Char) : List Char :=
  let digits := cs.takeWhile Char.isDigit
  match width with
  | some width => digits.take width
  | none => digits

def digits (width : Option Nat) (cs : List Char) : Part (List Char) :=
  match leadingDigits width cs with
  | [] => .error (if cs.isEmpty then .tooShort else .invalid)
  | found => .ok (found, cs.drop found.length)

def small (low high : Nat) (cs : List Char) : Part Nat :=
  match digits (some 2) (trimStart cs) with
  | .error e => .error e
  | .ok (found, rest) =>
    let n := digitsValue found
    if low ≤ n ∧ n ≤ high then .ok (n, rest) else .error .outOfRange

def boundedYear (year : Int) (rest : List Char) : Part Int :=
  if -2 ^ 31 ≤ year ∧ year < 2 ^ 31 then .ok (year, rest) else .error .outOfRange

def readYear (cs : List Char) : Part Int :=
  match trimStart cs with
  | '-' :: rest =>
    match digits none rest with
    | .error e => .error e
    | .ok (found, rest) => boundedYear (-(digitsValue found : Int)) rest
  | '+' :: rest =>
    match digits none rest with
    | .error e => .error e
    | .ok (found, rest) => boundedYear (digitsValue found) rest
  | cs =>
    match digits (some 4) cs with
    | .error e => .error e
    | .ok (found, rest) => boundedYear (digitsValue found) rest

def mark (expected : Char) : List Char → Except Fault (List Char)
  | [] => .error .tooShort
  | c :: rest => if c = expected then .ok rest else .error .invalid

/-- The fraction of a second in nanoseconds; digits after the ninth are passed over. -/
def readFraction : List Char → Part Nat
  | '.' :: rest =>
    match digits (some 9) rest with
    | .error e => .error e
    | .ok (found, rest) =>
      .ok (digitsValue found * 10 ^ (9 - found.length), rest.dropWhile Char.isDigit)
  | cs => .ok (0, cs)

def twoDigits : List Char → Part (Nat × Nat)
  | [] => .error .tooShort
  | [c] => .error (if c.utf8Size < 2 then .tooShort else .invalid)
  | a :: b :: rest =>
    if a.isDigit && b.isDigit then .ok ((a.toNat - 48, b.toNat - 48), rest) else .error .invalid

def offsetMinutes (cs : List Char) : Part Nat :=
  match twoDigits cs with
  | .error e => .error e
  | .ok ((a, b), rest) =>
    match twoDigits (rest.dropWhile fun c => c = ':' ∨ Text.isWhite c) with
    | .error e => .error e
    | .ok ((c, d), rest) =>
      if c ≤ 5 then .ok ((a * 10 + b) * 60 + c * 10 + d, rest) else .error .outOfRange

/-- The offset from UTC in minutes: `Z`, `UTC` in any case, or a signed offset. -/
def readOffset (cs : List Char) : Part Int :=
  if (cs.take 3).map Char.toLower = ['u', 't', 'c'] then .ok (0, cs.drop 3)
  else
    match cs with
    | [] => .error .tooShort
    | 'Z' :: rest | 'z' :: rest => .ok (0, rest)
    | '+' :: rest => (offsetMinutes rest).map fun (n, rest) => (n, rest)
    | '-' :: rest | '−' :: rest => (offsetMinutes rest).map fun (n, rest) => (-n, rest)
    | _ => .error .invalid

def separator : List Char → Except Fault (List Char)
  | [] => .error .tooShort
  | c :: rest => if c = 'T' ∨ c = 't' ∨ c = ' ' then .ok rest else .error .invalid

structure Parts where
  year : Int
  month : Nat
  day : Nat
  hour : Nat
  minute : Nat
  second : Nat
  nanosecond : Nat
  offsetMinutes : Int
  deriving DecidableEq

def Parts.read (cs : List Char) : Except Fault Parts := do
  let (year, rest) ← readYear cs
  let rest ← mark '-' (trimStart rest)
  let (month, rest) ← small 1 12 rest
  let rest ← mark '-' (trimStart rest)
  let (day, rest) ← small 1 31 rest
  let rest ← separator rest
  let (hour, rest) ← small 0 23 rest
  let rest ← mark ':' (trimStart rest)
  let (minute, rest) ← small 0 59 rest
  let rest ← mark ':' (trimStart rest)
  let (second, rest) ← small 0 60 rest
  let (nanosecond, rest) ← readFraction rest
  let (offsetMinutes, rest) ← readOffset (trimStart rest)
  if (trimStart rest).isEmpty then
    return { year, month, day, hour, minute, second, nanosecond, offsetMinutes }
  else throw Fault.tooLong

def Parts.instant (p : Parts) : Except Fault Instant :=
  match Date.ofCivil? p.year p.month p.day with
  | none => .error .outOfRange
  | some date =>
    if -1440 < p.offsetMinutes ∧ p.offsetMinutes < 1440 then
      match Instant.ofLocal? date p.hour p.minute p.second p.nanosecond p.offsetMinutes with
      | some t => .ok t
      | none => .error .impossible
    else .error .outOfRange

def Instant.parse (s : String) : Except Fault Instant := do
  (← Parts.read s.toList).instant

end TopicGateway.Time
