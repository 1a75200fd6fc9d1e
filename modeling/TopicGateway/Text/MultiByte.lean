import TopicGateway.Text.Big5
import TopicGateway.Text.Gb18030
import TopicGateway.Text.Jis0208
import TopicGateway.Text.Jis0212
import TopicGateway.Text.UnifiedHangul

/-! Character sets with several bytes to a character. Bytes are taken piece by piece: a first byte,
what it stands for together with those behind it, and how many of these belong to it. A piece that
means nothing becomes U+FFFD; an ASCII byte that ends such a piece is not part of it. -/

namespace TopicGateway.Text

inductive MultiByteSet where
  | shiftJis
  | eucJp
  | iso2022Jp
  | gb18030
  | big5
  | eucKr
  deriving DecidableEq

/-- What a first byte stands for, and how many of the bytes behind it belong to it. -/
structure Piece where
  chars : List Char
  extra : Nat

namespace Piece

def one (c : Char) (extra : Nat) : Piece := ⟨[c], extra⟩

def bad (extra : Nat) : Piece := ⟨[unknown], extra⟩

def badPair (second : UInt8) : Piece := bad (if second < 0x80 then 0 else 1)

/-- A first and a second byte that stand for the character, if there is one. -/
def pair (second : UInt8) : Option Char → Piece
  | some c => one c 1
  | none => badPair second

end Piece

namespace MultiByteSet

def isAscii (b : UInt8) : Bool := b < 0x80

def within (first last b : UInt8) : Bool := first ≤ b && b ≤ last

def halfWidth (b : UInt8) : Char := Char.ofNat (0xff61 + (b.toNat - 0xa1))

def shiftJisChar? (first second : UInt8) : Option Char :=
  if within 0x40 0x7e second || within 0x80 0xfc second then
    let row := first.toNat - (if first < 0xa0 then 0x81 else 0xc1)
    let position := row * 188 + (second.toNat - (if second < 0x7f then 0x40 else 0x41))
    if 8836 ≤ position && position ≤ 10715 then some (Char.ofNat (0xe000 + (position - 8836)))
    else CodeTable.jis0208.char? position
  else none

def shiftJisPiece (first : UInt8) (rest : List UInt8) : Piece :=
  if first ≤ 0x80 then .one (Char.ofNat first.toNat) 0
  else if within 0xa1 0xdf first then .one (halfWidth first) 0
  else if first = 0xa0 || 0xfc < first then .bad 0
  else
    match rest with
    | [] => .bad 0
    | second :: _ => .pair second (shiftJisChar? first second)

def rowChar? (table : CodeTable) (first second : UInt8) : Option Char :=
  if within 0xa1 0xfe first && within 0xa1 0xfe second then
    table.char? ((first.toNat - 0xa1) * 94 + (second.toNat - 0xa1))
  else none

/-- The byte 0x8e goes before half-width katakana, and 0x8f before supplementary kanji. -/
def eucJpPiece (first : UInt8) (rest : List UInt8) : Piece :=
  if isAscii first then .one (Char.ofNat first.toNat) 0
  else if first ≠ 0x8e && first ≠ 0x8f && !within 0xa1 0xfe first then .bad 0
  else
    match rest with
    | [] => .bad 0
    | second :: more =>
      if first = 0x8e then
        .pair second (if within 0xa1 0xdf second then some (halfWidth second) else none)
      else if first = 0x8f && within 0xa1 0xfe second then
        match more with
        | [] => .bad 1
        | third :: _ =>
          match rowChar? CodeTable.jis0212 second third with
          | some c => .one c 2
          | none => .bad (if isAscii third then 1 else 2)
      else .pair second (rowChar? CodeTable.jis0208 first second)

/-- Where the runs of characters with four bytes start, and their first code points. -/
def fourByteRuns : List (Nat × Nat) := [
    (0, 128), (36, 165), (38, 169), (45, 178), (50, 184), (81, 216), (89, 226), (95, 235),
    (96, 238), (100, 244), (103, 248), (104, 251), (105, 253), (109, 258), (126, 276), (133, 284),
    (148, 300), (172, 325), (175, 329), (179, 334), (208, 364), (306, 463), (307, 465),
    (308, 467), (309, 469), (310, 471), (311, 473), (312, 475), (313, 477), (341, 506),
    (428, 594), (443, 610), (544, 712), (545, 716), (558, 730), (741, 930), (742, 938),
    (749, 962), (750, 970), (805, 1026), (819, 1104), (820, 1106), (7922, 8209), (7924, 8215),
    (7925, 8218), (7927, 8222), (7934, 8231), (7943, 8241), (7944, 8244), (7945, 8246),
    (7950, 8252), (8062, 8365), (8148, 8452), (8149, 8454), (8152, 8458), (8164, 8471),
    (8174, 8482), (8236, 8556), (8240, 8570), (8262, 8596), (8264, 8602), (8374, 8713),
    (8380, 8720), (8381, 8722), (8384, 8726), (8388, 8731), (8390, 8737), (8392, 8740),
    (8393, 8742), (8394, 8748), (8396, 8751), (8401, 8760), (8406, 8766), (8416, 8777),
    (8419, 8781), (8424, 8787), (8437, 8802), (8439, 8808), (8445, 8816), (8482, 8854),
    (8485, 8858), (8496, 8870), (8521, 8896), (8603, 8979), (8936, 9322), (8946, 9372),
    (9046, 9548), (9050, 9588), (9063, 9616), (9066, 9622), (9076, 9634), (9092, 9652),
    (9100, 9662), (9108, 9672), (9111, 9676), (9113, 9680), (9131, 9702), (9162, 9735),
    (9164, 9738), (9218, 9793), (9219, 9795), (11329, 11906), (11331, 11909), (11334, 11913),
    (11336, 11917), (11346, 11928), (11361, 11944), (11363, 11947), (11366, 11951),
    (11370, 11956), (11372, 11960), (11375, 11964), (11389, 11979), (11682, 12284),
    (11686, 12292), (11687, 12312), (11692, 12319), (11694, 12330), (11714, 12351),
    (11716, 12436), (11723, 12447), (11725, 12535), (11730, 12543), (11736, 12586),
    (11982, 12842), (11989, 12850), (12102, 12964), (12336, 13200), (12348, 13215),
    (12350, 13218), (12384, 13253), (12393, 13263), (12395, 13267), (12397, 13270),
    (12510, 13384), (12553, 13428), (12851, 13727), (12962, 13839), (12973, 13851),
    (13738, 14617), (13823, 14703), (13919, 14801), (13933, 14816), (14080, 14964),
    (14298, 15183), (14585, 15471), (14698, 15585), (15583, 16471), (15847, 16736),
    (16318, 17208), (16434, 17325), (16438, 17330), (16481, 17374), (16729, 17623),
    (17102, 17997), (17122, 18018), (17315, 18212), (17320, 18218), (17402, 18301),
    (17418, 18318), (17859, 18760), (17909, 18811), (17911, 18814), (17915, 18820),
    (17916, 18823), (17936, 18844), (17939, 18848), (17961, 18872), (18664, 19576),
    (18703, 19620), (18814, 19738), (18962, 19887), (19043, 40870), (33469, 59244),
    (33470, 59336), (33471, 59367), (33484, 59413), (33485, 59417), (33490, 59423),
    (33497, 59431), (33501, 59437), (33505, 59443), (33513, 59452), (33520, 59460),
    (33536, 59478), (33550, 59493), (37845, 63789), (37921, 63866), (37948, 63894),
    (38029, 63976), (38038, 63986), (38064, 64016), (38065, 64018), (38066, 64021),
    (38069, 64025), (38075, 64034), (38076, 64037), (38078, 64042), (39108, 65074),
    (39109, 65093), (39113, 65107), (39114, 65112), (39115, 65127), (39116, 65132),
    (39265, 65375), (39394, 65510)]

def fourByteChar? (number : Nat) : Option Char :=
  if number = 7457 then some (Char.ofNat 0xe7c7)
  else if number ≤ 39419 then
    (fourByteRuns.reverse.find? fun run => run.1 ≤ number).map fun run =>
      Char.ofNat (run.2 + (number - run.1))
  else if 189000 ≤ number && number ≤ 1237575 then some (Char.ofNat (0x10000 + (number - 189000)))
  else none

def gb18030Char? (first second : UInt8) : Option Char :=
  if within 0x40 0x7e second || within 0x80 0xfe second then
    CodeTable.gb18030.char? ((first.toNat - 0x81) * 190 +
      (second.toNat - (if second < 0x7f then 0x40 else 0x41)))
  else none

/-- A character has four bytes where a digit follows the first one. -/
def gb18030Piece (first : UInt8) (rest : List UInt8) : Piece :=
  if isAscii first then .one (Char.ofNat first.toNat) 0
  else if first = 0x80 then .one (Char.ofNat 0x20ac) 0
  else if first = 0xff then .bad 0
  else
    match rest with
    | [] => .bad 0
    | second :: more =>
      if within 0x30 0x39 second then
        match more with
        | [] => .bad 1
        | [third] => .bad (if within 0x81 0xfe third then 2 else 0)
        | third :: fourth :: _ =>
          if within 0x81 0xfe third && within 0x30 0x39 fourth then
            let number := (first.toNat - 0x81) * 12600 + (second.toNat - 0x30) * 1260 +
              (third.toNat - 0x81) * 10 + (fourth.toNat - 0x30)
            match fourByteChar? number with
            | some c => .one c 3
            | none => .bad 3
          else .bad 0
      else .pair second (gb18030Char? first second)

/-- Four positions stand for a letter with an accent that has a code point of its own. -/
def accented : List (Nat × List Nat) := [
  (1133, [0xca, 0x304]), (1135, [0xca, 0x30c]), (1164, [0xea, 0x304]), (1166, [0xea, 0x30c])]

def big5Piece (first : UInt8) (rest : List UInt8) : Piece :=
  if isAscii first then .one (Char.ofNat first.toNat) 0
  else if first = 0x80 || first = 0xff then .bad 0
  else
    match rest with
    | [] => .bad 0
    | second :: _ =>
      if within 0x40 0x7e second || within 0xa1 0xfe second then
        let position := (first.toNat - 0x81) * 157 +
          (second.toNat - (if second < 0x7f then 0x40 else 0x62))
        match accented.lookup position with
        | some codes => ⟨codes.map Char.ofNat, 1⟩
        | none => .pair second (CodeTable.big5.char? position)
      else .badPair second

def eucKrChar? (first second : UInt8) : Option Char :=
  if within 0x41 0xfe second then
    CodeTable.unifiedHangul.char? ((first.toNat - 0x81) * 190 + (second.toNat - 0x41))
  else none

def eucKrPiece (first : UInt8) (rest : List UInt8) : Piece :=
  if isAscii first then .one (Char.ofNat first.toNat) 0
  else if first = 0x80 || first = 0xff then .bad 0
  else
    match rest with
    | [] => .bad 0
    | second :: _ => .pair second (eucKrChar? first second)

/-- The characters of bytes whose pieces are told by `piece`; `seen` holds those before, last
first. -/
def charsBy (piece : UInt8 → List UInt8 → Piece) (seen : List Char) : List UInt8 → List Char
  | [] => seen.reverse
  | first :: rest =>
    let p := piece first rest
    charsBy piece (p.chars.reverse ++ seen) (rest.drop p.extra)
termination_by bs => bs.length

inductive JapaneseMode where
  | ascii
  | roman
  | katakana
  | kanji
  deriving DecidableEq

def JapaneseMode.ofEscape? : List UInt8 → Option JapaneseMode
  | 0x28 :: 0x42 :: _ => some .ascii
  | 0x28 :: 0x4a :: _ => some .roman
  | 0x28 :: 0x49 :: _ => some .katakana
  | 0x24 :: 0x40 :: _ | 0x24 :: 0x42 :: _ => some .kanji
  | _ => none

/-- What a byte of seven bits without an escape stands for in each of the sets. -/
def JapaneseMode.piece (mode : JapaneseMode) (first : UInt8) (rest : List UInt8) : Piece :=
  match mode with
  | .ascii =>
    if isAscii first && first ≠ 0x0e && first ≠ 0x0f then .one (Char.ofNat first.toNat) 0
    else .bad 0
  | .roman =>
    if first = 0x5c then .one (Char.ofNat 0xa5) 0
    else if first = 0x7e then .one (Char.ofNat 0x203e) 0
    else if isAscii first && first ≠ 0x0e && first ≠ 0x0f then .one (Char.ofNat first.toNat) 0
    else .bad 0
  | .katakana =>
    if within 0x21 0x5f first then .one (Char.ofNat (0xff61 + (first.toNat - 0x21))) 0
    else .bad 0
  | .kanji =>
    if within 0x21 0x7e first then
      match rest with
      | [] => .bad 0
      | second :: _ =>
        if second = 0x1b then .bad 0
        else
          match rowChar? CodeTable.jis0208 (first + 0x80) (second + 0x80) with
          | some c => .one c 1
          | none => .bad 1
    else .bad 0

/-- The characters of bytes with escape sequences. An escape sequence right behind another one means
nothing; `justChosen` says that one came last. -/
def escapedChars (mode : JapaneseMode) (justChosen : Bool) (seen : List Char) :
    List UInt8 → List Char
  | [] => seen.reverse
  | first :: rest =>
    if first = 0x1b then
      match JapaneseMode.ofEscape? rest with
      | some chosen =>
        escapedChars chosen true (if justChosen then unknown :: seen else seen) (rest.drop 2)
      | none => escapedChars mode false (unknown :: seen) rest
    else
      let p := mode.piece first rest
      escapedChars mode false (p.chars.reverse ++ seen) (rest.drop p.extra)
termination_by bs => bs.length

def chars : MultiByteSet → List UInt8 → List Char
  | .shiftJis => charsBy shiftJisPiece []
  | .eucJp => charsBy eucJpPiece []
  | .iso2022Jp => escapedChars .ascii false []
  | .gb18030 => charsBy gb18030Piece []
  | .big5 => charsBy big5Piece []
  | .eucKr => charsBy eucKrPiece []

def labels : MultiByteSet → List String
  | .shiftJis =>
    ["csshiftjis", "ms932", "ms_kanji", "shift-jis", "shift_jis", "sjis", "windows-31j", "x-sjis"]
  | .eucJp => ["cseucpkdfmtjapanese", "euc-jp", "x-euc-jp"]
  | .iso2022Jp => ["csiso2022jp", "iso-2022-jp"]
  | .gb18030 =>
    ["chinese", "csgb2312", "csiso58gb231280", "gb18030", "gb2312", "gb_2312", "gb_2312-80", "gbk",
      "iso-ir-58", "x-gbk"]
  | .big5 => ["big5", "big5-hkscs", "cn-big5", "csbig5", "x-x-big5"]
  | .eucKr =>
    ["cseuckr", "csksc56011987", "euc-kr", "iso-ir-149", "korean", "ks_c_5601-1987",
      "ks_c_5601-1989", "ksc5601", "ksc_5601", "windows-949"]

def all : List MultiByteSet := [.shiftJis, .eucJp, .iso2022Jp, .gb18030, .big5, .eucKr]

end MultiByteSet

end TopicGateway.Text
