import TopicGateway.Proofs.Base64

/-! Nothing is read but what writing produces, and what writing produces can be told by its form. Each
group that is read gives back the symbols it was read from, so the induction is on the reader's own
groups; the form is built up by groups in the same way. -/
namespace TopicGateway.Base64

/-- Symbols of the alphabet with one or two fillers behind them at most, in whole groups of four. The
bits of the last symbol that the fillers cut off are zero. -/
def Canonical (symbols : List UInt8) : Prop :=
  ∃ numbers padding, symbols = numbers.map symbol ++ List.replicate padding pad ∧ Sextets numbers ∧
    padding ≤ 2 ∧ (numbers.length + padding) % 4 = 0 ∧ ∀ n ∈ numbers.getLast?, n % 4 ^ padding = 0

theorem symbol_of_value? {b : UInt8} {n : Nat} (read : value? b = some n) : symbol n = b ∧ n < 64 := by
  have all : ∀ m : Fin 256, ∀ n ∈ value? (UInt8.ofNat m.val),
      symbol n = UInt8.ofNat m.val ∧ n < 64 := by decide +kernel
  have found := all ⟨b.toNat, b.toNat_lt⟩ n
  rw [UInt8.ofNat_toNat] at found
  exact found read

theorem sextets_cons {n : Nat} {numbers : List Nat} :
    Sextets (n :: numbers) ↔ n < 64 ∧ Sextets numbers :=
  List.forall_mem_cons

theorem values_eq_ok {offset : Nat} {symbols : List UInt8} {numbers : List Nat}
    (read : values offset symbols = .ok numbers) : symbols = numbers.map symbol ∧ Sextets numbers := by
  induction symbols generalizing offset numbers with
  | nil =>
    cases read
    exact ⟨rfl, by simp [Sextets]⟩
  | cons b symbols ih =>
    rw [values] at read
    split at read
    · cases read
    · next n value =>
      obtain ⟨same, small⟩ := symbol_of_value? value
      cases later : values (offset + 1) symbols with
      | error fault =>
        rw [later] at read
        cases read
      | ok others =>
        rw [later] at read
        cases read
        obtain ⟨rfl, rest⟩ := ih later
        exact ⟨by rw [List.map_cons, same], sextets_cons.2 ⟨small, rest⟩⟩

def octets (w x y z : Nat) : List UInt8 :=
  [UInt8.ofNat (w * 4 + x / 16), UInt8.ofNat (x % 16 * 16 + y / 4), UInt8.ofNat (y % 4 * 64 + z)]

section Groups

variable {w x y z : Nat}

theorem encode_of_two (small : Sextets [x, y]) (cut : y % 16 = 0) :
    encode [UInt8.ofNat (x * 4 + y / 16)] = [x, y].map symbol ++ List.replicate 2 pad := by
  simp only [sextets_cons] at small
  have byte : (UInt8.ofNat (x * 4 + y / 16)).toNat = x * 4 + y / 16 := by
    rw [UInt8.toNat_ofNat']
    omega
  have first : (x * 4 + y / 16) / 4 = x := by omega
  have second : (x * 4 + y / 16) % 4 * 16 = y := by omega
  rw [encode_one, byte, first, second]

theorem encode_of_three (small : Sextets [x, y, z]) (cut : z % 4 = 0) :
    encode [UInt8.ofNat (x * 4 + y / 16), UInt8.ofNat (y % 16 * 16 + z / 4)] =
      [x, y, z].map symbol ++ List.replicate 1 pad := by
  simp only [sextets_cons] at small
  have one : (UInt8.ofNat (x * 4 + y / 16)).toNat = x * 4 + y / 16 := by
    rw [UInt8.toNat_ofNat']
    omega
  have two : (UInt8.ofNat (y % 16 * 16 + z / 4)).toNat = y % 16 * 16 + z / 4 := by
    rw [UInt8.toNat_ofNat']
    omega
  have first : (x * 4 + y / 16) / 4 = x := by omega
  have second : (x * 4 + y / 16) % 4 * 16 + (y % 16 * 16 + z / 4) / 16 = y := by omega
  have third : (y % 16 * 16 + z / 4) % 16 * 4 = z := by omega
  rw [encode_two, one, two, first, second, third]

theorem encode_of_four (small : Sextets [w, x, y, z]) (rest : List UInt8) :
    encode (octets w x y z ++ rest) = [w, x, y, z].map symbol ++ encode rest := by
  simp only [sextets_cons] at small
  have one : (UInt8.ofNat (w * 4 + x / 16)).toNat = w * 4 + x / 16 := by
    rw [UInt8.toNat_ofNat']
    omega
  have two : (UInt8.ofNat (x % 16 * 16 + y / 4)).toNat = x % 16 * 16 + y / 4 := by
    rw [UInt8.toNat_ofNat']
    omega
  have three : (UInt8.ofNat (y % 4 * 64 + z)).toNat = y % 4 * 64 + z := by
    rw [UInt8.toNat_ofNat']
    omega
  have first : (w * 4 + x / 16) / 4 = w := by omega
  have second : (w * 4 + x / 16) % 4 * 16 + (x % 16 * 16 + y / 4) / 16 = x := by omega
  have third : (x % 16 * 16 + y / 4) % 16 * 4 + (y % 4 * 64 + z) / 64 = y := by omega
  have fourth : (y % 4 * 64 + z) % 64 = z := by omega
  simp only [octets, List.cons_append, List.nil_append]
  rw [encode_group, sextets, one, two, three, first, second, third, fourth]

end Groups

/-- A group that is read consists of symbols and of the fillers that are missing behind them. -/
theorem lastGroup_eq_ok {offset : Nat} {group bytes : List UInt8}
    (read : lastGroup offset group = .ok bytes) :
    ∃ numbers padding, group = numbers.map symbol ++ List.replicate padding pad ∧ Sextets numbers ∧
      (group = [] ∨ 2 ≤ numbers.length) ∧ (numbers.length + padding) % 4 = 0 ∧
      lastBytes offset (numbers.map symbol) numbers = .ok bytes := by
  have parts : group = group.takeWhile (· != pad) ++ group.dropWhile (· != pad) :=
    List.takeWhile_append_dropWhile.symm
  simp only [lastGroup] at read
  generalize group.takeWhile (· != pad) = symbols at parts read
  generalize group.dropWhile (· != pad) = padding at parts read
  split at read
  · cases read
  next numbers found =>
  obtain ⟨rfl, small⟩ := values_eq_ok found
  rw [List.length_map] at read
  split at read
  · cases read
  next filled =>
  split at read
  · cases read
  next long =>
  split at read
  · cases read
  next whole =>
  have fillers : padding = List.replicate padding.length pad := by
    apply List.eq_replicate_of_mem
    intro b member
    apply Classical.byContradiction
    intro other
    have stray : padding.any (· != pad) = true := List.any_eq_true.2 ⟨b, member, bne_iff_ne.2 other⟩
    exact filled ⟨List.ne_nil_of_mem member, .inr stray⟩
  refine ⟨numbers, padding.length, by rw [← fillers, ← parts], small, ?_, by omega, read⟩
  by_cases empty : group = []
  · exact .inl empty
  · exact .inr (Nat.not_lt.1 fun few => long ⟨empty, few⟩)

/-- The bytes of a group are written as its symbols, since no bit of the last one is lost. -/
theorem encode_of_lastBytes {offset padding : Nat} {numbers : List Nat} {symbols bytes : List UInt8}
    (small : Sextets numbers) (enough : 2 ≤ numbers.length) (short : numbers.length + padding ≤ 4)
    (whole : (numbers.length + padding) % 4 = 0) (read : lastBytes offset symbols numbers = .ok bytes) :
    encode bytes = numbers.map symbol ++ List.replicate padding pad := by
  have four : numbers.length + padding = 4 := by omega
  match numbers, small with
  | [], _ | [_], _ => simp at enough
  | [x, y], small =>
    obtain rfl : padding = 2 := Nat.add_left_cancel four
    simp only [lastBytes] at read
    split at read
    · next cut =>
      cases read
      exact encode_of_two small cut
    · cases read
  | [x, y, z], small =>
    obtain rfl : padding = 1 := Nat.add_left_cancel four
    simp only [lastBytes] at read
    split at read
    · next cut =>
      cases read
      exact encode_of_three small cut
    · cases read
  | [w, x, y, z], small =>
    obtain rfl : padding = 0 := Nat.add_left_cancel four
    cases read
    exact encode_of_four small []
  | _ :: _ :: _ :: _ :: _ :: _, _ =>
    simp only [List.length_cons] at four
    omega

theorem encode_of_lastGroup {offset : Nat} {group bytes : List UInt8} (short : group.length ≤ 4)
    (read : lastGroup offset group = .ok bytes) : group = encode bytes := by
  obtain ⟨numbers, padding, rfl, small, empty | enough, whole, read⟩ := lastGroup_eq_ok read
  · obtain ⟨none, unfilled⟩ := List.append_eq_nil_iff.1 empty
    obtain rfl := List.map_eq_nil_iff.1 none
    cases read
    exact empty
  · rw [List.length_append, List.length_map, List.length_replicate] at short
    exact (encode_of_lastBytes small enough short whole read).symm

theorem decodeOnto_eq_ok {offset : Nat} {seen symbols bytes : List UInt8}
    (read : decodeOnto offset seen symbols = .ok bytes) :
    ∃ found, bytes = seen.reverse ++ found ∧ symbols = encode found := by
  fun_induction decodeOnto offset seen symbols with
  | case1 offset seen a b c d e rest w x y z numbers ih =>
    obtain ⟨found, rfl, later⟩ := ih read
    obtain ⟨group, small⟩ := values_eq_ok numbers
    refine ⟨octets w x y z ++ found, by simp [octets], ?_⟩
    rw [encode_of_four small, ← group, ← later]
    rfl
  | case2 | case3 | case5 => cases read
  | case4 offset seen group shorter bytes last =>
    cases read
    have short : group.length ≤ 4 := by
      match group, shorter with
      | [], _ | [_], _ | [_, _], _ | [_, _, _], _ | [_, _, _, _], _ => simp
      | a :: b :: c :: d :: e :: rest, shorter => exact absurd rfl (shorter a b c d e rest)
    exact ⟨bytes, rfl, encode_of_lastGroup short last⟩

theorem decode_eq_ok_iff {symbols bytes : List UInt8} :
    decode symbols = .ok bytes ↔ symbols = encode bytes := by
  constructor
  · intro read
    unfold decode at read
    split at read
    · cases read
    · obtain ⟨_, rfl, written⟩ := decodeOnto_eq_ok read
      exact written
  · rintro rfl
    exact decode_encode bytes

/-- A text reads as the bytes that are written as this very text, and as no others. -/
theorem decodeText_eq_ok_iff {s : String} {bytes : List UInt8} :
    decodeText s = .ok bytes ↔ s = text bytes := by
  rw [decodeText, decode_eq_ok_iff, ← encode_text]
  constructor
  · intro same
    have read := Text.Utf8.decode?_encode s
    rw [same, Text.Utf8.decode?_encode] at read
    exact (Option.some.inj read).symm
  · rintro rfl
    rfl

theorem text_injective : Function.Injective text := by
  intro a b same
  have read := decodeText_text a
  rw [same, decodeText_text] at read
  exact (Except.ok.inj read).symm

/-- A whole group in front leaves the end as it is; without one there are no fillers. -/
theorem Canonical.behind {group : List Nat} {symbols : List UInt8} (four : group.length = 4)
    (small : Sextets group) (form : Canonical symbols) : Canonical (group.map symbol ++ symbols) := by
  obtain ⟨numbers, padding, rfl, others, few, whole, cut⟩ := form
  refine ⟨group ++ numbers, padding, ?_, List.forall_mem_append.2 ⟨small, others⟩, few, ?_, ?_⟩
  · rw [List.map_append, List.append_assoc]
  · rw [List.length_append, four]
    omega
  · cases numbers with
    | nil =>
      obtain rfl : padding = 0 := by
        rw [List.length_nil] at whole
        omega
      intro n _
      exact Nat.mod_one n
    | cons first numbers =>
      rw [List.getLast?_append, List.getLast?_cons, Option.some_or, ← List.getLast?_cons]
      exact cut

theorem canonical_encode : (bytes : List UInt8) → Canonical (encode bytes)
  | [] => ⟨[], 0, rfl, by simp [Sextets], by simp⟩
  | [a] => by
    have byte := a.toNat_lt
    refine ⟨_, 2, encode_one a, ?_, Nat.le_refl _, Nat.mod_self 4, ?_⟩
    · simp only [sextets_cons]
      exact ⟨by omega, by omega, by simp [Sextets]⟩
    · rintro n ⟨⟩
      exact Nat.mul_mod_left _ _
  | [a, b] => by
    have first := a.toNat_lt
    have second := b.toNat_lt
    refine ⟨_, 1, encode_two a b, ?_, by decide, Nat.mod_self 4, ?_⟩
    · simp only [sextets_cons]
      exact ⟨by omega, by omega, by omega, by simp [Sextets]⟩
    · rintro n ⟨⟩
      exact Nat.mul_mod_left _ _
  | a :: b :: c :: rest => by
    rw [encode_group]
    exact (canonical_encode rest).behind rfl (sextets_small a b c)

theorem exists_encode {padding : Nat} (few : padding ≤ 2) : (numbers : List Nat) → Sextets numbers →
    (numbers.length + padding) % 4 = 0 → (∀ n ∈ numbers.getLast?, n % 4 ^ padding = 0) →
    ∃ bytes, encode bytes = numbers.map symbol ++ List.replicate padding pad
  | [], _, whole, _ => by
    obtain rfl : padding = 0 := by
      simp only [List.length_nil] at whole
      omega
    exact ⟨[], rfl⟩
  | [_], _, whole, _ => by
    simp only [List.length_singleton] at whole
    omega
  | [x, y], small, whole, cut => by
    obtain rfl : padding = 2 := by
      simp only [List.length_cons, List.length_nil] at whole
      omega
    exact ⟨_, encode_of_two small (cut y rfl)⟩
  | [x, y, z], small, whole, cut => by
    obtain rfl : padding = 1 := by
      simp only [List.length_cons, List.length_nil] at whole
      omega
    exact ⟨_, encode_of_three small (cut z rfl)⟩
  | w :: x :: y :: z :: rest, small, whole, cut => by
    have later : ∀ n ∈ rest.getLast?, n % 4 ^ padding = 0 := by
      intro n last
      apply cut
      simp [List.getLast?_cons, Option.mem_def.1 last]
    have small' : Sextets ([w, x, y, z] ++ rest) := small
    obtain ⟨group, others⟩ := List.forall_mem_append.1 small'
    have left : (rest.length + padding) % 4 = 0 := by
      simp only [List.length_cons] at whole
      omega
    obtain ⟨bytes, written⟩ := exists_encode few rest others left later
    refine ⟨octets w x y z ++ bytes, ?_⟩
    rw [encode_of_four group, written, ← List.append_assoc, ← List.map_append]
    rfl

theorem canonical_iff {symbols : List UInt8} : Canonical symbols ↔ ∃ bytes, symbols = encode bytes := by
  constructor
  · rintro ⟨numbers, padding, rfl, small, few, whole, cut⟩
    obtain ⟨bytes, written⟩ := exists_encode few numbers small whole cut
    exact ⟨bytes, written.symm⟩
  · rintro ⟨bytes, rfl⟩
    exact canonical_encode bytes

end TopicGateway.Base64
