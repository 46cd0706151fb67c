import StorageQuery.Url.Percent
set_option autoImplicit false

namespace StorageQuery.Percent

theorem decode_cons {c : Char} (h : c ≠ '%') (cs : List Char) :
    decode (c :: cs) = Text.utf8 [c] ++ decode cs := by
  rw [decode]
  rintro a b rest rfl
  exact absurd rfl h

theorem decode_encodeByte (b : UInt8) (cs : List Char) : decode (encodeByte b ++ cs) = b :: decode cs := by
  have hb := b.toNat_lt
  have hhigh : b.toNat / 16 < 16 := by omega
  have hlow : b.toNat % 16 < 16 := by omega
  have hjoin : UInt8.ofNat (16 * (b.toNat / 16) + b.toNat % 16) = b := by
    rw [Nat.div_add_mod, UInt8.ofNat_toNat]
  simp only [encodeByte, List.cons_append, List.nil_append, decode, Hex.value?_upperDigit hhigh,
    Hex.value?_upperDigit hlow, hjoin]

theorem decode_encodeBytes (bytes : List UInt8) (cs : List Char) :
    decode (bytes.flatMap encodeByte ++ cs) = bytes ++ decode cs := by
  induction bytes with
  | nil => rfl
  | cons b bytes ih => rw [List.flatMap_cons, List.append_assoc, decode_encodeByte, ih, List.cons_append]

section
variable {set : Char → Bool}

theorem decode_encodeChar (hset : set '%' = true) (c : Char) (cs : List Char) :
    decode (encodeChar set c ++ cs) = Text.utf8 [c] ++ decode cs := by
  rw [encodeChar]
  split
  · rw [decode_encodeBytes]
    simp [Text.utf8]
  · rename_i hc
    have hne : c ≠ '%' := fun heq => hc (heq ▸ hset)
    exact decode_cons hne cs

theorem decode_encode (hset : set '%' = true) (cs : List Char) :
    decode (encode set cs) = Text.utf8 cs := by
  induction cs with
  | nil => rfl
  | cons c cs ih =>
    calc decode (encode set (c :: cs)) = Text.utf8 [c] ++ decode (encode set cs) :=
          decode_encodeChar hset c (encode set cs)
      _ = Text.utf8 (c :: cs) := by rw [ih, ← Text.utf8_cons]

theorem of_mem_encode {c : Char} {cs : List Char} (h : c ∈ encode set cs) :
    set c = false ∨ c = '%' ∨ ∃ n < 16, c = Hex.upperDigit n := by
  obtain ⟨d, -, hd⟩ := List.mem_flatMap.1 h
  rw [encodeChar] at hd
  split at hd
  · obtain ⟨b, -, hb⟩ := List.mem_flatMap.1 hd
    have hlt := b.toNat_lt
    simp only [encodeByte, List.mem_cons, List.not_mem_nil, or_false] at hb
    rcases hb with rfl | rfl | rfl
    · exact .inr (.inl rfl)
    · exact .inr (.inr ⟨b.toNat / 16, by omega, rfl⟩)
    · exact .inr (.inr ⟨b.toNat % 16, by omega, rfl⟩)
  · rename_i hset
    rw [List.mem_singleton.1 hd]
    exact .inl (by simpa using hset)

end

end StorageQuery.Percent
