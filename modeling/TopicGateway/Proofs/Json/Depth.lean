import TopicGateway.Proofs.Json.Canonical
import TopicGateway.Proofs.Json.Grammar

/-! A value that is read has no more levels than its reader allowed, and what is kept of it has no
more than it had itself. -/
namespace TopicGateway.Json

def Piece.depth : Piece → Nat
  | .value j => j.depth
  | .items js => depthItems js
  | .members ms => depthMembers ms

theorem depth_of_scalar {b : UInt8} {tail rest : List UInt8} {j : Json}
    (read : scalar b tail = .ok (j, rest)) : j.depth = 0 := by
  cases spelt_of_scalar read <;> rfl

theorem Reads.depth_le {depth : Nat} {input rest : List UInt8} {piece : Piece}
    (reads : Reads depth input piece rest) : piece.depth ≤ depth := by
  induction reads with
  | scalar _ read =>
    rw [Piece.depth, depth_of_scalar read]
    exact Nat.zero_le _
  | noItems | noMembers =>
    simp [Piece.depth, Json.depth, depthItems, depthMembers]
  | list _ _ _ _ inside | object _ _ _ _ inside =>
    simpa [Piece.depth, Json.depth] using inside
  | lastItem _ _ item | lastMember _ _ _ item =>
    simpa [Piece.depth, depthItems, depthMembers] using item
  | nextItem _ _ _ _ _ item others | nextMember _ _ _ _ _ _ item others =>
    simp only [Piece.depth, depthItems, depthMembers] at item others ⊢
    exact Nat.max_le.2 ⟨item, others⟩

theorem depthMembers_insertMember_le (name : String) (j : Json) (members : List (String × Json)) :
    depthMembers (insertMember name j members) ≤ max j.depth (depthMembers members) := by
  induction members with
  | nil => exact Nat.le_refl _
  | cons m members ih =>
    obtain ⟨other, kept⟩ := m
    rw [insertMember]
    split
    · exact Nat.le_refl _
    split
    · exact Nat.le_max_right ..
    · simp only [depthMembers]
      omega

theorem depthMembers_sortMembers_le (members : List (String × Json)) :
    depthMembers (sortMembers members) ≤ depthMembers members := by
  induction members with
  | nil => exact Nat.le_refl _
  | cons m members ih =>
    obtain ⟨name, j⟩ := m
    have inserted := depthMembers_insertMember_le name j (sortMembers members)
    simp only [sortMembers, List.foldr_cons, depthMembers] at inserted ih ⊢
    omega

mutual

theorem depth_canonical_le : (j : Json) → j.canonical.depth ≤ j.depth
  | .null | .bool _ | .number _ | .string _ => Nat.le_refl _
  | .array items => by
    have inside := depthItems_canonicalItems_le items
    rw [canonical, depth, depth]
    omega
  | .object members => by
    have inside := depthMembers_canonicalMembers_le members
    have sorted := depthMembers_sortMembers_le (canonicalMembers members)
    rw [canonical, depth, depth]
    omega

theorem depthItems_canonicalItems_le : (items : List Json) →
    depthItems (canonicalItems items) ≤ depthItems items
  | [] => Nat.le_refl _
  | j :: items => by
    have first := depth_canonical_le j
    have others := depthItems_canonicalItems_le items
    rw [canonicalItems, depthItems, depthItems]
    omega

theorem depthMembers_canonicalMembers_le : (members : List (String × Json)) →
    depthMembers (canonicalMembers members) ≤ depthMembers members
  | [] => Nat.le_refl _
  | (name, j) :: members => by
    have first := depth_canonical_le j
    have others := depthMembers_canonicalMembers_le members
    rw [canonicalMembers, depthMembers, depthMembers]
    omega

end

theorem depth_value_of_readValue {depth : Nat} {input rest : List UInt8} {j : Json}
    (read : readValue depth input = .ok (j, rest)) : j.value.json.depth ≤ depth := by
  have written : j.depth ≤ depth := (reads_of_readValue read).depth_le
  exact Nat.le_trans (depth_canonical_le j) written

theorem depth_of_read {input : List UInt8} {j : Json} (read : Json.read input = .ok j) :
    j.depth ≤ deepest := by
  obtain ⟨rest, read⟩ := of_onlyBlankLeft read
  exact (reads_of_readValue read).depth_le

end TopicGateway.Json
