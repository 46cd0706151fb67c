import StorageQuery.Text.Hex
import StorageQuery.Proofs.Outcome
set_option autoImplicit false

namespace StorageQuery.Hex

def IsDigit (c : Char) : Prop := ∃ n, value? c = some n

theorem toNat_lt_of_isDigit {c : Char} (h : IsDigit c) : c.toNat < 128 := by
  obtain ⟨n, hn⟩ := h
  simp only [value?, Char.le_def, UInt32.le_iff_toNat_le] at hn
  have hnine : '9'.val.toNat = 57 := rfl
  have hsmall : 'f'.val.toNat = 102 := rfl
  have hlarge : 'F'.val.toNat = 70 := rfl
  change c.val.toNat < 128
  split at hn
  · omega
  · split at hn
    · omega
    · split at hn
      · omega
      · cases hn

theorem ofAscii_eq_ok_iff {position : Nat} {byte : UInt8} {n : Nat} :
    ofAscii position byte = .ok n ↔ value? (Char.ofNat byte.toNat) = some n := by
  rw [ofAscii]
  cases value? (Char.ofNat byte.toNat) <;> simp

theorem exists_readPairs_iff (position : Nat) (bytes : List UInt8) (heven : bytes.length % 2 = 0) :
    (∃ found, readPairs position bytes = .ok found) ↔
      ∀ byte ∈ bytes, IsDigit (Char.ofNat byte.toNat) := by
  match bytes with
  | [] => simp [readPairs]
  | [_] => cases heven
  | hi :: lo :: rest =>
    have hrest : rest.length % 2 = 0 := by
      simp only [List.length_cons] at heven
      omega
    have ih := exists_readPairs_iff (position + 2) rest hrest
    simp only [List.forall_mem_cons, ← ih, readPairs, Outcome.bind_eq_ok_iff, ofAscii_eq_ok_iff, pure,
      Except.pure, Except.ok.injEq]
    constructor
    · rintro ⟨_, h, hhigh, l, hlow, found, hfound, -⟩
      exact ⟨⟨h, hhigh⟩, ⟨l, hlow⟩, found, hfound⟩
    · rintro ⟨⟨h, hhigh⟩, ⟨l, hlow⟩, found, hfound⟩
      exact ⟨_, h, hhigh, l, hlow, found, hfound, rfl⟩

theorem utf8EncodeChar_of_lt {c : Char} (h : c.toNat < 128) :
    String.utf8EncodeChar c = [UInt8.ofNat c.toNat] := by
  have hle : c.val.toNat ≤ 127 := Nat.le_of_lt_succ h
  simp only [String.utf8EncodeChar, hle, ↓reduceIte]
  rfl

theorem exists_utf8EncodeChar {c : Char} (h : 128 ≤ c.toNat) :
    ∃ first rest, String.utf8EncodeChar c = first :: rest ∧ 128 ≤ first.toNat := by
  have hlarge : ¬ c.val.toNat ≤ 127 := Nat.not_le_of_lt h
  simp only [String.utf8EncodeChar, hlarge, ↓reduceIte]
  split
  · refine ⟨_, _, rfl, ?_⟩
    rw [UInt8.toNat_ofNat']
    omega
  · split
    · refine ⟨_, _, rfl, ?_⟩
      rw [UInt8.toNat_ofNat']
      omega
    · refine ⟨_, _, rfl, ?_⟩
      rw [UInt8.toNat_ofNat']
      omega

theorem isDigit_of_utf8EncodeChar {c : Char}
    (h : ∀ byte ∈ String.utf8EncodeChar c, IsDigit (Char.ofNat byte.toNat)) : IsDigit c := by
  by_cases hsmall : c.toNat < 128
  · rw [utf8EncodeChar_of_lt hsmall] at h
    have hbyte := h _ List.mem_cons_self
    rwa [UInt8.toNat_ofNat', Nat.mod_eq_of_lt (by omega), Char.ofNat_toNat] at hbyte
  · obtain ⟨first, rest, hencode, hfirst⟩ := exists_utf8EncodeChar (Nat.le_of_not_lt hsmall)
    rw [hencode] at h
    have hlt := toNat_lt_of_isDigit (h first List.mem_cons_self)
    have hvalid : first.toNat.isValidChar := .inl (by have := first.toNat_lt; omega)
    rw [Char.ofNat, dif_pos hvalid] at hlt
    exact absurd hfirst (Nat.not_le_of_lt hlt)

theorem utf8_of_isDigit {cs : List Char} (h : ∀ c ∈ cs, IsDigit c) :
    Text.utf8 cs = cs.map fun c => UInt8.ofNat c.toNat := by
  induction cs with
  | nil => rfl
  | cons c cs ih =>
    obtain ⟨hc, hcs⟩ := List.forall_mem_cons.1 h
    rw [Text.utf8, List.flatMap_cons, utf8EncodeChar_of_lt (toNat_lt_of_isDigit hc), List.map_cons, ← ih hcs]
    rfl

theorem exists_readBytes_iff (cs : List Char) :
    (∃ found, readBytes (Text.utf8 cs) = .ok found) ↔ cs.length % 2 = 0 ∧ ∀ c ∈ cs, IsDigit c := by
  have hdigits : (∀ byte ∈ Text.utf8 cs, IsDigit (Char.ofNat byte.toNat)) ↔ ∀ c ∈ cs, IsDigit c := by
    constructor
    · intro h c hc
      exact isDigit_of_utf8EncodeChar fun byte hbyte => h byte (List.mem_flatMap_of_mem hc hbyte)
    · intro h byte hbyte
      rw [utf8_of_isDigit h] at hbyte
      obtain ⟨c, hc, rfl⟩ := List.mem_map.1 hbyte
      have hlt := toNat_lt_of_isDigit (h c hc)
      rw [UInt8.toNat_ofNat', Nat.mod_eq_of_lt (by omega), Char.ofNat_toNat]
      exact h c hc
  have hlength : (∀ c ∈ cs, IsDigit c) → (Text.utf8 cs).length = cs.length := fun h => by
    rw [utf8_of_isDigit h, List.length_map]
  rw [readBytes]
  by_cases hodd : (Text.utf8 cs).length % 2 = 1
  · rw [if_pos hodd]
    constructor
    · rintro ⟨found, ⟨⟩⟩
    · rintro ⟨heven, h⟩
      rw [hlength h] at hodd
      omega
  · rw [if_neg hodd, exists_readPairs_iff 0 _ (by omega), hdigits]
    refine ⟨fun h => ⟨?_, h⟩, And.right⟩
    have heq := hlength h
    omega

end StorageQuery.Hex
