import TopicGateway.Text.Blank
import TopicGateway.Text.MultiByte
import TopicGateway.Text.SingleByte
import TopicGateway.Text.Utf8

/-! Text in a named character set. Bytes are decoded by the character set that a label names, unless
they begin with a byte order mark, which then decides. What cannot be decoded becomes U+FFFD;
decoding never fails. -/

namespace TopicGateway.Text

inductive Charset where
  | utf8
  | utf16 (bigEndian : Bool)
  | singleByte (s : SingleByteSet)
  | multiByte (s : MultiByteSet)
  /-- The upper half stands for code points from U+F780 on. -/
  | privateUse
  /-- Sets that are not decoded at all. -/
  | replacement
  deriving DecidableEq

namespace Charset

def utf8Labels : List String :=
  ["unicode-1-1-utf-8", "unicode11utf8", "unicode20utf8", "utf-8", "utf8", "x-unicode20utf8"]

def utf16BigLabels : List String := ["unicodefffe", "utf-16be"]

def utf16LittleLabels : List String :=
  ["csunicode", "iso-10646-ucs-2", "ucs-2", "unicode", "unicodefeff", "utf-16", "utf-16le"]

def replacementLabels : List String :=
  ["csiso2022kr", "hz-gb-2312", "iso-2022-cn", "iso-2022-cn-ext", "iso-2022-kr", "replacement"]

def isAsciiBlank (c : Char) : Bool :=
  c = '\t' || c = '\n' || c = '\x0c' || c = '\r' || c = ' '

def plainLabel (label : String) : String :=
  let cs := label.toList.dropWhile isAsciiBlank
  lowerAscii (String.ofList (cs.reverse.dropWhile isAsciiBlank).reverse)

def ofLabel? (label : String) : Option Charset :=
  let label := plainLabel label
  if utf8Labels.contains label then some .utf8
  else if utf16BigLabels.contains label then some (.utf16 true)
  else if utf16LittleLabels.contains label then some (.utf16 false)
  else if replacementLabels.contains label then some .replacement
  else if label = "x-user-defined" then some .privateUse
  else
    match SingleByteSet.all.find? fun s => s.labels.contains label with
    | some s => some (.singleByte s)
    | none => (MultiByteSet.all.find? fun s => s.labels.contains label).map .multiByte

/-- The character set that a byte order mark names, and the bytes after the mark. -/
def ofMark? : List UInt8 → Option (Charset × List UInt8)
  | 0xef :: 0xbb :: 0xbf :: rest => some (.utf8, rest)
  | 0xff :: 0xfe :: rest => some (.utf16 false, rest)
  | 0xfe :: 0xff :: rest => some (.utf16 true, rest)
  | _ => none

/-- The 16-bit units of the bytes; a single byte at the end is no unit. -/
def units (bigEndian : Bool) (seen : List Nat) : List UInt8 → List Nat × Bool
  | a :: b :: rest =>
    let unit := if bigEndian then a.toNat * 256 + b.toNat else b.toNat * 256 + a.toNat
    units bigEndian (unit :: seen) rest
  | [_] => (seen.reverse, true)
  | [] => (seen.reverse, false)

/-- The characters of the units; `seen` holds those before, last first, and `leading` an open first
half of a surrogate pair. -/
def ofUnits (cut : Bool) (seen : List Char) (leading : Option Nat) : List Nat → List Char
  | [] => (if cut || leading.isSome then unknown :: seen else seen).reverse
  | unit :: rest =>
    let isLeading := 0xd800 ≤ unit && unit < 0xdc00
    let isTrailing := 0xdc00 ≤ unit && unit < 0xe000
    match leading with
    | some first =>
      if isTrailing then
        let n := (first - 0xd800) * 1024 + (unit - 0xdc00) + 0x10000
        ofUnits cut (Char.ofNat n :: seen) none rest
      else if isLeading then ofUnits cut (unknown :: seen) (some unit) rest
      else ofUnits cut (Char.ofNat unit :: unknown :: seen) none rest
    | none =>
      if isTrailing then ofUnits cut (unknown :: seen) none rest
      else if isLeading then ofUnits cut seen (some unit) rest
      else ofUnits cut (Char.ofNat unit :: seen) none rest

def chars : Charset → List UInt8 → List Char
  | .utf8, bs => Utf8.decodeLossy bs
  | .utf16 bigEndian, bs =>
    let (units, cut) := units bigEndian [] bs
    ofUnits cut [] none units
  | .singleByte s, bs => bs.map s.char
  | .multiByte s, bs => s.chars bs
  | .privateUse, bs =>
    bs.map fun b => Char.ofNat (if b < 0x80 then b.toNat else 0xf700 + b.toNat)
  | .replacement, bs => if bs.isEmpty then [] else [unknown]

def decode (set : Charset) (bs : List UInt8) : String :=
  match ofMark? bs with
  | some (marked, rest) => String.ofList (marked.chars rest)
  | none => String.ofList (set.chars bs)

end Charset

end TopicGateway.Text
