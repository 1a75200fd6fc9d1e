/-! UTF-8 bytes. Text and its bytes as a list. `decode?` refuses bytes that are no UTF-8,
`validLength` says how far they are, and `decodeLossy` puts U+FFFD in the place of each maximal
ill-formed piece. -/

namespace TopicGateway.Text.Utf8

def encode (s : String) : List UInt8 :=
  s.toByteArray.data.toList

def decode? (bs : List UInt8) : Option String :=
  String.fromUTF8? bs.toByteArray

theorem toByteArray_encode (s : String) : (encode s).toByteArray = s.toByteArray := by
  apply ByteArray.ext
  simp [encode, List.data_toByteArray]

theorem decode?_encode (s : String) : decode? (encode s) = some s := by
  simp only [decode?, toByteArray_encode, String.fromUTF8?]
  rw [dif_pos s.isValidUTF8]
  rfl

theorem encode_of_decode? {bs : List UInt8} {s : String} (h : decode? bs = some s) :
    encode s = bs := by
  simp only [decode?, String.fromUTF8?] at h
  split at h
  · simp only [Option.some.injEq] at h
    subst h
    simp [encode, String.fromUTF8, List.data_toByteArray]
  · simp at h

theorem decode?_eq_some_iff {bs : List UInt8} {s : String} :
    decode? bs = some s ↔ bs = encode s :=
  ⟨fun h => (encode_of_decode? h).symm, fun h => h ▸ decode?_encode s⟩

/-- What the next bytes hold: a whole character, or an ill-formed piece with its length. -/
inductive Step where
  | character (c : Char) (rest : List UInt8)
  | illFormed (length : Nat) (rest : List UInt8)
  | done

def continues (low high : UInt8) (b : UInt8) : Bool :=
  low ≤ b && b ≤ high

def payload (b : UInt8) : Nat :=
  b.toNat % 64

/-- One step of decoding; an ill-formed piece is the longest start of a well-formed sequence. -/
def step : List UInt8 → Step
  | [] => .done
  | a :: rest =>
    let n := a.toNat
    if n < 0x80 then .character (Char.ofNat n) rest
    else if n < 0xc2 then .illFormed 1 rest
    else if n < 0xe0 then
      match rest with
      | b :: rest' =>
        if continues 0x80 0xbf b then .character (Char.ofNat (n % 32 * 64 + payload b)) rest'
        else .illFormed 1 rest
      | [] => .illFormed 1 rest
    else if n < 0xf0 then
      let low : UInt8 := if n = 0xe0 then 0xa0 else 0x80
      let high : UInt8 := if n = 0xed then 0x9f else 0xbf
      match rest with
      | b :: rest' =>
        if continues low high b then
          match rest' with
          | c :: rest'' =>
            if continues 0x80 0xbf c then
              .character (Char.ofNat (n % 16 * 4096 + payload b * 64 + payload c)) rest''
            else .illFormed 2 rest'
          | [] => .illFormed 2 rest'
        else .illFormed 1 rest
      | [] => .illFormed 1 rest
    else if n < 0xf5 then
      let low : UInt8 := if n = 0xf0 then 0x90 else 0x80
      let high : UInt8 := if n = 0xf4 then 0x8f else 0xbf
      match rest with
      | b :: rest' =>
        if continues low high b then
          match rest' with
          | c :: rest'' =>
            if continues 0x80 0xbf c then
              match rest'' with
              | d :: rest''' =>
                if continues 0x80 0xbf d then
                  .character (Char.ofNat
                    (n % 8 * 262144 + payload b * 4096 + payload c * 64 + payload d)) rest'''
                else .illFormed 3 rest''
              | [] => .illFormed 3 rest''
            else .illFormed 2 rest'
          | [] => .illFormed 2 rest'
        else .illFormed 1 rest
      | [] => .illFormed 1 rest
    else .illFormed 1 rest

/-- Steps over at most `fuel` bytes, counting the bytes of whole characters before the first
ill-formed piece. -/
def validLengthWithin : Nat → Nat → List UInt8 → Nat
  | 0, seen, _ => seen
  | fuel + 1, seen, bs =>
    match step bs with
    | .character c rest => validLengthWithin fuel (seen + c.utf8Size) rest
    | .illFormed _ _ => seen
    | .done => seen

def validLength (bs : List UInt8) : Nat :=
  validLengthWithin bs.length 0 bs

/-- Steps over at most `fuel` pieces, the characters gathered last first. -/
def decodeLossyWithin : Nat → List Char → List UInt8 → List Char
  | 0, seen, _ => seen.reverse
  | fuel + 1, seen, bs =>
    match step bs with
    | .character c rest => decodeLossyWithin fuel (c :: seen) rest
    | .illFormed _ rest => decodeLossyWithin fuel (Char.ofNat 0xfffd :: seen) rest
    | .done => seen.reverse

/-- The characters of the bytes, with U+FFFD for each ill-formed piece. -/
def decodeLossy (bs : List UInt8) : List Char :=
  decodeLossyWithin bs.length [] bs

end TopicGateway.Text.Utf8
