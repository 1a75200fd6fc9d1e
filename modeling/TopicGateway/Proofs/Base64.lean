import TopicGateway.Base64
import TopicGateway.Proofs.Number.Digits

/-! Bytes are read back from their base64 text. Writing goes by groups of three bytes and reading by
groups of four symbols, and both take the last group by itself: the inductions are on the bytes, three
at a time. -/
namespace TopicGateway.Base64

open Text (asciiByte)

def Sextets (numbers : List Nat) : Prop :=
  ∀ n ∈ numbers, n < 64

theorem value?_symbol {n : Nat} (small : n < 64) : value? (symbol n) = some n := by
  have all : ∀ m : Fin 64, value? (symbol m.val) = some m.val := by decide
  exact all ⟨n, small⟩

theorem symbol_ne_pad {n : Nat} (small : n < 64) : symbol n ≠ pad := by
  have all : ∀ m : Fin 64, symbol m.val ≠ pad := by decide
  exact all ⟨n, small⟩

theorem symbol_ascii (n : Nat) : (symbol n).toNat < 128 := by
  unfold symbol
  split
  · simp only [UInt8.toNat_ofNat']
    omega
  split
  · simp only [UInt8.toNat_ofNat']
    omega
  split
  · simp only [UInt8.toNat_ofNat']
    omega
  split <;> decide

theorem values_map_symbol {numbers : List Nat} (small : Sextets numbers) (offset : Nat) :
    values offset (numbers.map symbol) = .ok numbers := by
  induction numbers generalizing offset with
  | nil => rfl
  | cons n numbers ih =>
    have later := ih (fun m member => small m (List.mem_cons_of_mem n member)) (offset + 1)
    simp only [List.map_cons, values, value?_symbol (small n (List.mem_cons_self ..)), later]
    rfl

def sextets (a b c : UInt8) : List Nat :=
  [a.toNat / 4, a.toNat % 4 * 16 + b.toNat / 16, b.toNat % 16 * 4 + c.toNat / 64, c.toNat % 64]

theorem sextets_small (a b c : UInt8) : Sextets (sextets a b c) := by
  have first := a.toNat_lt
  have second := b.toNat_lt
  have third := c.toNat_lt
  simp only [Sextets, sextets, List.forall_mem_cons]
  refine ⟨by omega, by omega, by omega, by omega, by simp⟩

theorem encodeOnto_eq : (bytes seen : List UInt8) →
    encodeOnto seen bytes = (encode bytes).reverse ++ seen
  | [], seen | [_], seen | [_, _], seen => rfl
  | a :: b :: c :: rest, seen => by
    rw [encode, List.reverse_reverse, encodeOnto, encodeOnto, encodeOnto_eq rest, encodeOnto_eq rest]
    simp

theorem encode_group (a b c : UInt8) (rest : List UInt8) :
    encode (a :: b :: c :: rest) = (sextets a b c).map symbol ++ encode rest := by
  have second := b.toNat_lt
  have third := c.toNat_lt
  have n₁ : ((a.toNat * 256 + b.toNat) * 256 + c.toNat) / 262144 = a.toNat / 4 := by omega
  have n₂ : ((a.toNat * 256 + b.toNat) * 256 + c.toNat) / 4096 % 64 =
      a.toNat % 4 * 16 + b.toNat / 16 := by omega
  have n₃ : ((a.toNat * 256 + b.toNat) * 256 + c.toNat) / 64 % 64 =
      b.toNat % 16 * 4 + c.toNat / 64 := by omega
  have n₄ : ((a.toNat * 256 + b.toNat) * 256 + c.toNat) % 64 = c.toNat % 64 := by omega
  rw [encode, encodeOnto, encodeOnto_eq, n₁, n₂, n₃, n₄]
  simp [sextets]

theorem encode_one (a : UInt8) :
    encode [a] = [a.toNat / 4, a.toNat % 4 * 16].map symbol ++ List.replicate 2 pad := by
  have high : a.toNat * 16 / 64 = a.toNat / 4 := by omega
  have low : a.toNat * 16 % 64 = a.toNat % 4 * 16 := by omega
  rw [← high, ← low]
  rfl

theorem encode_two (a b : UInt8) :
    encode [a, b] = [a.toNat / 4, a.toNat % 4 * 16 + b.toNat / 16, b.toNat % 16 * 4].map symbol ++
      List.replicate 1 pad := by
  have second := b.toNat_lt
  have high : (a.toNat * 256 + b.toNat) * 4 / 4096 = a.toNat / 4 := by omega
  have middle : (a.toNat * 256 + b.toNat) * 4 / 64 % 64 = a.toNat % 4 * 16 + b.toNat / 16 := by omega
  have low : (a.toNat * 256 + b.toNat) * 4 % 64 = b.toNat % 16 * 4 := by omega
  rw [← high, ← middle, ← low]
  rfl

theorem length_encode : (bytes : List UInt8) → (encode bytes).length = 4 * ((bytes.length + 2) / 3)
  | [] => rfl
  | [a] => by simp [encode_one]
  | [a, b] => by simp [encode_two]
  | a :: b :: c :: rest => by
    rw [encode_group, List.length_append, length_encode rest]
    simp only [sextets, List.length_map, List.length_cons, List.length_nil]
    omega

theorem map_symbol_ascii (numbers : List Nat) : ∀ s ∈ numbers.map symbol, s.toNat < 128 := by
  intro s member
  obtain ⟨n, _, rfl⟩ := List.mem_map.1 member
  exact symbol_ascii n

theorem pads_ascii (padding : Nat) : ∀ s ∈ List.replicate padding pad, s.toNat < 128 := by
  intro s member
  rw [List.eq_of_mem_replicate member]
  decide

theorem encode_ascii : (bytes : List UInt8) → ∀ s ∈ encode bytes, s.toNat < 128
  | [] => by simp [encode, encodeOnto]
  | [a] => by
    rw [encode_one]
    exact List.forall_mem_append.2 ⟨map_symbol_ascii _, pads_ascii 2⟩
  | [a, b] => by
    rw [encode_two]
    exact List.forall_mem_append.2 ⟨map_symbol_ascii _, pads_ascii 1⟩
  | a :: b :: c :: rest => by
    rw [encode_group]
    exact List.forall_mem_append.2 ⟨map_symbol_ascii _, encode_ascii rest⟩

/-- The bytes of the text are its symbols. -/
theorem encode_text (bytes : List UInt8) : Text.Utf8.encode (text bytes) = encode bytes := by
  have code {s : UInt8} (ascii : s.toNat < 128) : (Char.ofNat s.toNat).toNat = s.toNat := by
    have all : ∀ n : Fin 128, (Char.ofNat n.val).toNat = n.val := by decide
    exact all ⟨s.toNat, ascii⟩
  have ascii : ∀ c ∈ (encode bytes).map fun b => Char.ofNat b.toNat, c.toNat < 128 := by
    intro c member
    obtain ⟨s, inside, rfl⟩ := List.mem_map.1 member
    have small := encode_ascii bytes s inside
    rw [code small]
    exact small
  have back : ∀ s ∈ encode bytes, asciiByte (Char.ofNat s.toNat) = s := by
    intro s inside
    have small := encode_ascii bytes s inside
    apply UInt8.toNat_inj.1
    rw [Text.asciiByte_toNat (by rw [code small]; exact small), code small]
  rw [text, Text.Utf8.encode_ofList ascii, List.map_map]
  exact (List.map_congr_left back).trans (List.map_id _)

/-- The last group is read from its numbers, whatever fills it up. -/
theorem lastGroup_symbols {numbers : List Nat} (small : Sextets numbers) (padding : Nat)
    (whole : (padding + numbers.length) % 4 = 0) (enough : 2 ≤ numbers.length) (offset : Nat) :
    lastGroup offset (numbers.map symbol ++ List.replicate padding pad) =
      lastBytes offset (numbers.map symbol) numbers := by
  have symbols : ∀ s ∈ numbers.map symbol, (s != pad) = true := by
    intro s member
    obtain ⟨n, inside, rfl⟩ := List.mem_map.1 member
    exact bne_iff_ne.2 (symbol_ne_pad (small n inside))
  have front : (numbers.map symbol ++ List.replicate padding pad).takeWhile (· != pad) =
      numbers.map symbol := by
    rw [List.takeWhile_append_of_pos symbols]
    simp
  have back : (numbers.map symbol ++ List.replicate padding pad).dropWhile (· != pad) =
      List.replicate padding pad := by
    rw [List.dropWhile_append_of_pos symbols]
    simp
  have long : ¬numbers.length < 2 := Nat.not_lt.2 enough
  simp [lastGroup, front, back, values_map_symbol small, whole, long]

theorem decodeOnto_last {offset : Nat} {group bytes : List UInt8} (short : group.length ≤ 4)
    (last : lastGroup offset group = .ok bytes) (seen : List UInt8) :
    decodeOnto offset seen group = .ok (seen.reverse ++ bytes) := by
  match group, short with
  | [], _ | [_], _ | [_, _], _ | [_, _, _], _ | [_, _, _, _], _ => simp only [decodeOnto, last]

theorem ofNat_eq {n : Nat} {b : UInt8} (same : n = b.toNat) : UInt8.ofNat n = b := by
  rw [same, UInt8.ofNat_toNat]

/-- The three bytes come back from the numbers of their symbols. -/
theorem bytes_of_sextets (a b c : UInt8) :
    UInt8.ofNat (a.toNat / 4 * 4 + (a.toNat % 4 * 16 + b.toNat / 16) / 16) = a ∧
    UInt8.ofNat ((a.toNat % 4 * 16 + b.toNat / 16) % 16 * 16 +
      (b.toNat % 16 * 4 + c.toNat / 64) / 4) = b ∧
    UInt8.ofNat ((b.toNat % 16 * 4 + c.toNat / 64) % 4 * 64 + c.toNat % 64) = c := by
  have second := b.toNat_lt
  have third := c.toNat_lt
  exact ⟨ofNat_eq (by omega), ofNat_eq (by omega), ofNat_eq (by omega)⟩

/-- A group that is not the last one. -/
theorem decodeOnto_group (a b c : UInt8) (offset : Nat) (seen : List UInt8) {rest : List UInt8}
    (more : rest ≠ []) : decodeOnto offset seen ((sextets a b c).map symbol ++ rest) =
      decodeOnto (offset + 4) (c :: b :: a :: seen) rest := by
  obtain ⟨e, rest, rfl⟩ := List.exists_cons_of_ne_nil more
  have numbers := values_map_symbol (sextets_small a b c) offset
  obtain ⟨first, second, third⟩ := bytes_of_sextets a b c
  simp only [sextets, List.map_cons, List.map_nil] at numbers
  simp only [sextets, List.map_cons, List.map_nil, List.cons_append, List.nil_append, decodeOnto,
    numbers, first, second, third]

/-- One, two or three bytes are written as one group. -/
theorem lastGroup_encode {bytes : List UInt8} (some : bytes ≠ []) (short : bytes.length ≤ 3)
    (offset : Nat) : lastGroup offset (encode bytes) = .ok bytes := by
  match bytes, some, short with
  | [a], _, _ =>
    have first := a.toNat_lt
    have small : Sextets [a.toNat / 4, a.toNat % 4 * 16] := by
      simp only [Sextets, List.forall_mem_cons]
      exact ⟨by omega, by omega, by simp⟩
    have zero : a.toNat % 4 * 16 % 16 = 0 := by omega
    have byte : UInt8.ofNat (a.toNat / 4 * 4 + a.toNat % 4 * 16 / 16) = a := ofNat_eq (by omega)
    rw [encode_one, lastGroup_symbols small 2 (by simp) (by simp), lastBytes, if_pos zero, byte]
  | [a, b], _, _ =>
    have first := a.toNat_lt
    have second := b.toNat_lt
    have small : Sextets [a.toNat / 4, a.toNat % 4 * 16 + b.toNat / 16, b.toNat % 16 * 4] := by
      simp only [Sextets, List.forall_mem_cons]
      exact ⟨by omega, by omega, by omega, by simp⟩
    have zero : b.toNat % 16 * 4 % 4 = 0 := by omega
    have byte : UInt8.ofNat (a.toNat / 4 * 4 + (a.toNat % 4 * 16 + b.toNat / 16) / 16) = a :=
      ofNat_eq (by omega)
    have next : UInt8.ofNat ((a.toNat % 4 * 16 + b.toNat / 16) % 16 * 16 +
        b.toNat % 16 * 4 / 4) = b := ofNat_eq (by omega)
    rw [encode_two, lastGroup_symbols small 1 (by simp) (by simp), lastBytes, if_pos zero, byte, next]
  | [a, b, c], _, _ =>
    obtain ⟨first, second, third⟩ := bytes_of_sextets a b c
    have whole := lastGroup_symbols (sextets_small a b c) 0 (by simp [sextets]) (by simp [sextets])
      offset
    rw [encode_group]
    refine whole.trans ?_
    rw [sextets, lastBytes, first, second, third]

theorem decodeOnto_short {bytes : List UInt8} (some : bytes ≠ []) (short : bytes.length ≤ 3)
    (offset : Nat) (seen : List UInt8) :
    decodeOnto offset seen (encode bytes) = .ok (seen.reverse ++ bytes) := by
  have group : (encode bytes).length ≤ 4 := by
    rw [length_encode]
    omega
  exact decodeOnto_last group (lastGroup_encode some short offset) seen

theorem decodeOnto_encode : (bytes : List UInt8) → (offset : Nat) → (seen : List UInt8) →
    decodeOnto offset seen (encode bytes) = .ok (seen.reverse ++ bytes)
  | [], _, _ => rfl
  | [a], offset, seen => decodeOnto_short (by simp) (by simp) offset seen
  | [a, b], offset, seen => decodeOnto_short (by simp) (by simp) offset seen
  | [a, b, c], offset, seen => decodeOnto_short (by simp) (by simp) offset seen
  | a :: b :: c :: d :: rest, offset, seen => by
    have more : encode (d :: rest) ≠ [] := by
      apply List.ne_nil_of_length_pos
      rw [length_encode, List.length_cons]
      omega
    rw [encode_group, decodeOnto_group a b c offset seen more, decodeOnto_encode (d :: rest)]
    simp

theorem decode_encode (bytes : List UInt8) : decode (encode bytes) = .ok bytes := by
  have whole : (encode bytes).length % 4 ≠ 1 := by
    rw [length_encode]
    omega
  rw [decode, strayEnd?, if_neg whole]
  exact decodeOnto_encode bytes 0 []

/-- The bytes that a text writes are read from it. -/
theorem decodeText_text (bytes : List UInt8) : decodeText (text bytes) = .ok bytes := by
  rw [decodeText, encode_text, decode_encode]

end TopicGateway.Base64
