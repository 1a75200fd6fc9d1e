/-! Spans of time. A span is written in the largest of the units s, ms, µs and ns in which it is at
least one, with as many decimal places as are needed. -/

namespace TopicGateway.Time

structure Span where
  seconds : Nat
  nanoseconds : Nat
  nanoseconds_lt : nanoseconds < 1000000000

namespace Span

instance : DecidableEq Span := fun s t =>
  decidable_of_iff (s.seconds = t.seconds ∧ s.nanoseconds = t.nanoseconds) (by
    cases s
    cases t
    simp)

theorem zero_lt_billion : 0 < 1000000000 := by decide

def ofSeconds (seconds : Nat) : Span := ⟨seconds, 0, zero_lt_billion⟩

/-- `fraction` as that many decimal places, without zeros at the end. -/
def places (width fraction : Nat) : List Char :=
  let digits := Nat.toDigits 10 fraction
  let padded := List.replicate (width - digits.length) '0' ++ digits
  (padded.reverse.dropWhile (· = '0')).reverse

def decimal (whole width fraction : Nat) (unit : String) : String :=
  if fraction = 0 then toString whole ++ unit
  else toString whole ++ "." ++ String.ofList (places width fraction) ++ unit

def text (s : Span) : String :=
  let n := s.nanoseconds
  if 0 < s.seconds then decimal s.seconds 9 n "s"
  else if 1000000 ≤ n then decimal (n / 1000000) 6 (n % 1000000) "ms"
  else if 1000 ≤ n then decimal (n / 1000) 3 (n % 1000) "µs"
  else decimal n 1 0 "ns"

end Span

end TopicGateway.Time
