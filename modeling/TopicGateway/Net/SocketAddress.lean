import TopicGateway.Number.Binary64
import TopicGateway.Text.Hex

/-! Socket addresses. A host address and a port, as text. Four decimal bytes, or eight hexadecimal
groups in brackets with an optional scope, of which one run of zero groups may be left out and the
last two groups may be written as four decimal bytes. The printed form leaves out the first of the
longest runs of two or more zero groups. Readers answer what they read and what follows it. -/

namespace TopicGateway.Net

structure Ipv4 where
  a : UInt8
  b : UInt8
  c : UInt8
  d : UInt8
  deriving DecidableEq

/-- Eight groups of 16 bits. -/
abbrev Ipv6 := Vector UInt16 8

inductive SocketAddress where
  | v4 (host : Ipv4) (port : UInt16)
  | v6 (host : Ipv6) (scope : UInt32) (port : UInt16)
  deriving DecidableEq

abbrev Read (α : Type) := List Char → Option (α × List Char)

def digitValue? (radix : Nat) (c : Char) : Option Nat :=
  match Text.hexDigit? c with
  | some d => if d.val < radix then some d.val else none
  | none => none

def digitRun (radix : Nat) : List Char → List Nat × List Char
  | [] => ([], [])
  | c :: cs =>
    match digitValue? radix c with
    | some d =>
      let (ds, rest) := digitRun radix cs
      (d :: ds, rest)
    | none => ([], c :: cs)

def ofDigits (radix : Nat) (ds : List Nat) : Nat :=
  ds.foldl (fun n d => radix * n + d) 0

def readNumber (radix limit : Nat) : Read Nat := fun cs =>
  match digitRun radix cs with
  | ([], _) => none
  | (ds, rest) => if ofDigits radix ds < limit then some (ofDigits radix ds, rest) else none

def readByte : Read UInt8 := fun cs =>
  match digitRun 10 cs with
  | (0 :: _ :: _, _) => none
  | _ => (readNumber 10 256 cs).map fun (n, rest) => (.ofNat n, rest)

def readGroup : Read UInt16 := fun cs =>
  if (digitRun 16 cs).1.length ≤ 4 then
    (readNumber 16 65536 cs).map fun (n, rest) => (.ofNat n, rest)
  else none

def readChar (c : Char) (cs : List Char) : Option (List Char) :=
  match cs with
  | d :: rest => if d = c then some rest else none
  | [] => none

def readIpv4 : Read Ipv4 := fun cs => do
  let (a, cs) ← readByte cs
  let (b, cs) ← readByte (← readChar '.' cs)
  let (c, cs) ← readByte (← readChar '.' cs)
  let (d, cs) ← readByte (← readChar '.' cs)
  pure (⟨a, b, c, d⟩, cs)

def Ipv4.groups (h : Ipv4) : List UInt16 :=
  [h.a.toUInt16 * 256 + h.b.toUInt16, h.c.toUInt16 * 256 + h.d.toUInt16]

def separated {α : Type} (first : Bool) (read : Read α) : Read α := fun cs =>
  if first then read cs else (readChar ':' cs).bind read

/-- At most `room` groups; four decimal bytes, which count as two, end them. The flag tells of such
an end. -/
def readGroups : Nat → Bool → List Char → List UInt16 × Bool × List Char
  | 0, _, cs => ([], false, cs)
  | room + 1, first, cs =>
    match (if room = 0 then none else separated first readIpv4 cs) with
    | some (h, rest) => (h.groups, true, rest)
    | none =>
      match separated first readGroup cs with
      | some (g, rest) =>
        let (gs, decimal, rest) := readGroups room false rest
        (g :: gs, decimal, rest)
      | none => ([], false, cs)

/-- The address with these groups, filled up with zeros between head and tail. -/
def Ipv6.ofEnds (head tail : List UInt16) : Ipv6 :=
  let groups := head ++ List.replicate (8 - head.length - tail.length) 0 ++ tail
  .ofFn fun i => groups.getD i.val 0

/-- All eight groups, or those before and after a double colon, which stands for one group or
more. Decimal bytes do not stand before it. -/
def readIpv6 : Read Ipv6 := fun cs =>
  let (head, decimal, rest) := readGroups 8 true cs
  if head.length = 8 then some (.ofEnds head [], rest)
  else if decimal then none
  else do
    let rest ← readChar ':' (← readChar ':' rest)
    let (tail, _, rest) := readGroups (8 - (head.length + 1)) true rest
    pure (.ofEnds head tail, rest)

def readPort : Read UInt16 := fun cs => do
  let (n, rest) ← readNumber 10 65536 (← readChar ':' cs)
  pure (.ofNat n, rest)

/-- A scope after a percent sign; without one it is zero. -/
def readScope (cs : List Char) : UInt32 × List Char :=
  match (readChar '%' cs).bind (readNumber 10 (2 ^ 32)) with
  | some (n, rest) => (.ofNat n, rest)
  | none => (0, cs)

namespace SocketAddress

def readV4 : Read SocketAddress := fun cs => do
  let (host, cs) ← readIpv4 cs
  let (port, cs) ← readPort cs
  pure (.v4 host port, cs)

def readV6 : Read SocketAddress := fun cs => do
  let (host, cs) ← readIpv6 (← readChar '[' cs)
  let (scope, cs) := readScope cs
  let (port, cs) ← readPort (← readChar ']' cs)
  pure (.v6 host scope port, cs)

def parse? (s : String) : Option SocketAddress :=
  match readV4 s.toList <|> readV6 s.toList with
  | some (address, []) => some address
  | _ => none

end SocketAddress

def Ipv4.text (h : Ipv4) : String :=
  toString h.a.toNat ++ "." ++ toString h.b.toNat ++ "." ++ toString h.c.toNat ++ "." ++
    toString h.d.toNat

def zeroRun (groups : List UInt16) : Nat :=
  (groups.takeWhile (· == 0)).length

/-- Start and length of the first of the longest runs of zero groups. -/
def longestZeroRun (groups : List UInt16) : Nat × Nat :=
  (List.range groups.length).foldl
    (fun best i =>
      let run := zeroRun (groups.drop i)
      if best.2 < run then (i, run) else best)
    (0, 0)

def groupText (g : UInt16) : String :=
  String.ofList (Nat.toDigits 16 g.toNat)

def groupsText (groups : List UInt16) : String :=
  ":".intercalate (groups.map groupText)

def Ipv6.mapped? (h : Ipv6) : Option Ipv4 :=
  match h.toList with
  | [0, 0, 0, 0, 0, 0xffff, x, y] =>
    some ⟨(x / 256).toUInt8, x.toUInt8, (y / 256).toUInt8, y.toUInt8⟩
  | _ => none

def Ipv6.text (h : Ipv6) : String :=
  match h.mapped? with
  | some v4 => "::ffff:" ++ v4.text
  | none =>
    let groups := h.toList
    let (start, length) := longestZeroRun groups
    if 1 < length then
      groupsText (groups.take start) ++ "::" ++ groupsText (groups.drop (start + length))
    else groupsText groups

namespace SocketAddress

def text : SocketAddress → String
  | .v4 host port => host.text ++ ":" ++ toString port.toNat
  | .v6 host scope port =>
    let scope := if scope = 0 then "" else "%" ++ toString scope.toNat
    "[" ++ host.text ++ scope ++ "]:" ++ toString port.toNat

def withPort (port : UInt16) : SocketAddress → SocketAddress
  | .v4 host _ => .v4 host port
  | .v6 host scope _ => .v6 host scope port

end SocketAddress

end TopicGateway.Net
