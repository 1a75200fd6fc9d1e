import TopicGateway.Uuid

/-! An identifier is read back from its written form: of the four forms it is the grouped one, and
the groups put together are the digits. -/
namespace TopicGateway.Uuid

theorem digitsOf?_map (digits : List (Fin 16)) :
    digitsOf? (digits.map Text.hexChar) = some digits := by
  induction digits with
  | nil => rfl
  | cons d digits ih =>
    rw [digitsOf?] at ih ⊢
    simp [Text.hexDigit?_hexChar, ih]

variable {a b c d e : List Char}

theorem length_groups (ha : a.length = 8) (hb : b.length = 4) (hc : c.length = 4)
    (hd : d.length = 4) (he : e.length = 12) :
    (a ++ '-' :: (b ++ '-' :: (c ++ '-' :: (d ++ '-' :: e)))).length = 36 := by
  simp [ha, hb, hc, hd, he]

theorem ofGroups?_groups (ha : a.length = 8) (hb : b.length = 4) (hc : c.length = 4)
    (hd : d.length = 4) (he : e.length = 12) :
    ofGroups? (a ++ '-' :: (b ++ '-' :: (c ++ '-' :: (d ++ '-' :: e)))) =
      (digitsOf? (a ++ b ++ c ++ d ++ e)).bind ofDigits? := by
  have length := length_groups ha hb hc hd he
  have hyphens : hyphenPlaces.all fun i =>
      (a ++ '-' :: (b ++ '-' :: (c ++ '-' :: (d ++ '-' :: e))))[i]? == some '-' := by
    simp [hyphenPlaces, List.getElem?_append, List.getElem?_cons, ha, hb, hc, hd]
  rw [ofGroups?, if_pos ⟨length, hyphens⟩]
  simp [List.drop_append, List.drop_of_length_le, ha, hb, hc, hd]

theorem groups_append (cs : List Char) :
    cs.take 8 ++ (cs.drop 8).take 4 ++ (cs.drop 12).take 4 ++ (cs.drop 16).take 4 ++ cs.drop 20 =
      cs := by
  have next (n : Nat) : (cs.drop n).take 4 ++ cs.drop (n + 4) = cs.drop n := by
    rw [← List.drop_drop, List.take_append_drop]
  simp only [List.append_assoc, next 16, next 12, next 8, List.take_append_drop]

/-- The text of an identifier is read as that identifier. -/
theorem parse_text (u : Uuid) : parse u.text = .ok u := by
  have size := u.length_digits
  have first : ((u.digits.map Text.hexChar).take 8).length = 8 := by simp [size]
  have group (n : Nat) (inside : n ≤ 28) :
      (((u.digits.map Text.hexChar).drop n).take 4).length = 4 := by
    simp only [List.length_take, List.length_drop, List.length_map]
    omega
  have last : ((u.digits.map Text.hexChar).drop 20).length = 12 := by simp [size]
  have length : u.chars.length = 36 := length_groups first (group 8 (by decide))
    (group 12 (by decide)) (group 16 (by decide)) last
  have read : ofGroups? u.chars = some u := by
    rw [chars, ofGroups?_groups first (group 8 (by decide)) (group 12 (by decide))
      (group 16 (by decide)) last, groups_append, digitsOf?_map]
    exact dif_pos size
  rw [parse, text, String.toList_ofList, ofChars?, length, if_neg (by decide), if_pos rfl, read]

end TopicGateway.Uuid
