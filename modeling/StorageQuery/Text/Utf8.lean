set_option autoImplicit false

namespace StorageQuery.Text

def utf8 (cs : List Char) : List UInt8 := cs.flatMap String.utf8EncodeChar

theorem utf8_append (as bs : List Char) : utf8 (as ++ bs) = utf8 as ++ utf8 bs := List.flatMap_append

theorem utf8_cons (c : Char) (cs : List Char) : utf8 (c :: cs) = utf8 [c] ++ utf8 cs :=
  utf8_append [c] cs

theorem utf8_injective {as bs : List Char} (h : utf8 as = utf8 bs) : as = bs := by
  rw [← String.ofList_inj, ← String.toByteArray_inj, String.toByteArray_ofList, String.toByteArray_ofList]
  exact congrArg List.toByteArray h

def ofUtf8? (bytes : List UInt8) : Option String := String.fromUTF8? ⟨bytes.toArray⟩

def firstChar? (bytes : List UInt8) : Option Char := (bytes.take 4).toByteArray.utf8DecodeChar? 0

/-- The characters of some bytes. A byte that belongs to none stands as `junk`. -/
def decode (junk : Char) : List UInt8 → List Char
  | [] => []
  | b :: bytes =>
    match firstChar? (b :: bytes) with
    | some c => c :: decode junk (bytes.drop (c.utf8Size - 1))
    | none => junk :: decode junk bytes
termination_by bytes => bytes.length

theorem firstChar?_append (c : Char) (bytes : List UInt8) :
    firstChar? (String.utf8EncodeChar c ++ bytes) = some c := by
  have hlength : (String.utf8EncodeChar c).length ≤ 4 := by
    rw [String.length_utf8EncodeChar]
    exact c.utf8Size_le_four
  rw [firstChar?, List.take_append, List.take_of_length_le hlength, List.toByteArray_append]
  exact ByteArray.utf8DecodeChar?_utf8EncodeChar_append

theorem decode_utf8 (junk : Char) (cs : List Char) : decode junk (utf8 cs) = cs := by
  induction cs with
  | nil => rw [utf8, List.flatMap_nil, decode]
  | cons c cs ih =>
    have hbytes : utf8 (c :: cs) = String.utf8EncodeChar c ++ utf8 cs := rfl
    have hlength := String.length_utf8EncodeChar c
    have hfirst := firstChar?_append c (utf8 cs)
    rw [hbytes]
    cases hencode : String.utf8EncodeChar c with
    | nil =>
      rw [hencode] at hlength
      exact absurd hlength.symm (Nat.ne_of_gt c.utf8Size_pos)
    | cons b tail =>
      rw [hencode, List.length_cons] at hlength
      rw [hencode, List.cons_append] at hfirst
      rw [List.cons_append, decode, hfirst]
      change c :: decode junk ((tail ++ utf8 cs).drop (c.utf8Size - 1)) = c :: cs
      rw [← hlength, Nat.add_sub_cancel, List.drop_left, ih]

end StorageQuery.Text
