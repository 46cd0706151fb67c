import Mathlib.Data.List.Induction
import StorageQuery.Text.Decimal
import StorageQuery.Proofs.Outcome
set_option autoImplicit false

namespace StorageQuery.Decimal

theorem value_zeros_append (zeros : Nat) (cs : List Char) :
    value (List.replicate zeros '0' ++ cs) = value cs := by
  rw [value, Nat.ofDigitChars_append, Nat.ofDigitChars_replicate_zero, Nat.mul_zero, value]

theorem value_concat (cs : List Char) (c : Char) : value (cs ++ [c]) = 10 * value cs + (c.toNat - 48) := by
  rw [value, Nat.ofDigitChars_append, Nat.ofDigitChars_cons, Nat.ofDigitChars_nil]
  rfl

theorem toNat_of_isDigit {c : Char} (h : c.isDigit = true) : 48 ≤ c.toNat ∧ c.toNat ≤ 57 := by
  simp only [Char.isDigit, Bool.and_eq_true, decide_eq_true_eq, ge_iff_le, UInt32.le_iff_toNat_le] at h
  exact h

theorem isDigit_of_mem_zeros {count : Nat} {c : Char} (h : c ∈ List.replicate count '0') : c.isDigit = true := by
  rw [List.eq_of_mem_replicate h]
  rfl

theorem digits_of_isDigit {c : Char} (h : c.isDigit = true) :
    c.toNat - 48 < 10 ∧ digits (c.toNat - 48) = [c] := by
  obtain ⟨hlow, hhigh⟩ := toNat_of_isDigit h
  have hlt : c.toNat - 48 < 10 := by omega
  have hc : (c.toNat - 48).digitChar = c := by
    rw [← Char.toNat_inj, Nat.toNat_digitChar_of_lt_ten hlt]
    omega
  exact ⟨hlt, by rw [digits, Nat.toDigits_of_lt_base hlt, hc]⟩

theorem digits_concat {n d : Nat} (hn : 0 < n) (hd : d < 10) : digits (10 * n + d) = digits n ++ digits d :=
  (Nat.toDigits_append_toDigits (by decide) hn hd).symm

theorem exists_zeros {cs : List Char} (hne : cs ≠ []) (h : ∀ c ∈ cs, c.isDigit = true) :
    ∃ zeros, cs = List.replicate zeros '0' ++ digits (value cs) := by
  induction cs using List.reverseRecOn with
  | nil => exact absurd rfl hne
  | append_singleton cs c ih =>
    obtain ⟨hlt, hc⟩ := digits_of_isDigit (h c (by simp))
    rw [value_concat]
    by_cases hcs : cs = []
    · refine ⟨0, ?_⟩
      rw [hcs, value, Nat.ofDigitChars_nil, Nat.mul_zero, Nat.zero_add, hc]
      rfl
    · obtain ⟨zeros, hzeros⟩ := ih hcs fun d hd => h d (List.mem_append_left _ hd)
      rcases Nat.eq_zero_or_pos (value cs) with hzero | hpos
      · -- the digits so far were zeros
        have hdigits : digits 0 = ['0'] := rfl
        refine ⟨zeros + 1, ?_⟩
        rw [hzero, Nat.mul_zero, Nat.zero_add, hc, List.replicate_succ', ← hdigits, ← hzero, ← hzeros]
      · refine ⟨zeros, ?_⟩
        rw [digits_concat hpos hlt, hc, ← List.append_assoc, ← hzeros]

theorem isDigit_of_mem_numeral {zeros n : Nat} {c : Char} (h : c ∈ List.replicate zeros '0' ++ digits n) :
    c.isDigit = true := by
  rcases List.mem_append.1 h with h | h
  · exact isDigit_of_mem_zeros h
  · exact isDigit_of_mem_digits h

theorem readDigits?_eq_some_iff {cs : List Char} {n : Nat} :
    readDigits? cs = some n ↔ ∃ zeros, cs = List.replicate zeros '0' ++ digits n := by
  rw [readDigits?]
  constructor
  · intro h
    split at h
    · rename_i hdigits
      cases h
      exact exists_zeros hdigits.1 (List.all_eq_true.1 hdigits.2)
    · cases h
  · rintro ⟨zeros, rfl⟩
    have hne : List.replicate zeros '0' ++ digits n ≠ [] := List.append_ne_nil_of_right_ne_nil _ (digits_ne_nil n)
    have hdigits : (List.replicate zeros '0' ++ digits n).all Char.isDigit = true :=
      List.all_eq_true.2 fun _ => isDigit_of_mem_numeral
    rw [if_pos ⟨hne, hdigits⟩, value_zeros_append, value_digits]

theorem readBelow?_eq_some_iff {bound n : Nat} {cs : List Char} :
    readBelow? bound cs = some n ↔
      n < bound ∧ ∃ sign zeros, (sign = [] ∨ sign = ['+']) ∧ cs = sign ++ (List.replicate zeros '0' ++ digits n) := by
  unfold readBelow?
  rw [Option.filter_eq_some_iff, decide_eq_true_eq, and_comm]
  refine and_congr_right fun _ => ?_
  constructor
  · intro h
    split at h
    · obtain ⟨zeros, hrest⟩ := readDigits?_eq_some_iff.1 h
      exact ⟨['+'], zeros, .inr rfl, by rw [hrest]; rfl⟩
    · obtain ⟨zeros, hcs⟩ := readDigits?_eq_some_iff.1 h
      exact ⟨[], zeros, .inl rfl, hcs⟩
  · rintro ⟨sign, zeros, rfl | rfl, rfl⟩
    · split
      · -- no run of digits begins with a sign
        rename_i rest hplus
        have hsign : '+' ∈ List.replicate zeros '0' ++ digits n := hplus ▸ List.mem_cons_self
        exact absurd (isDigit_of_mem_numeral hsign) (by decide)
      · exact readDigits?_eq_some_iff.2 ⟨zeros, rfl⟩
    · exact readDigits?_eq_some_iff.2 ⟨zeros, rfl⟩

theorem ofInt_eq_toString (n : Int) : String.ofList (ofInt n) = toString n := by
  cases n with
  | ofNat n => rfl
  | negSucc n =>
    rw [ofInt, String.ofList_cons]
    rfl

theorem mem_dropSign (sign : Char) {c : Char} {cs : List Char} (h : c ∈ cs) : c = sign ∨ c ∈ dropSign sign cs := by
  cases cs with
  | nil => cases h
  | cons first rest =>
    rw [dropSign]
    split
    · rename_i hsign
      rcases List.mem_cons.1 h with rfl | h
      · exact .inl hsign.1
      · exact .inr h
    · exact .inr h

def IsMark (c : Char) : Prop := c.isDigit = true ∨ c = '_' ∨ c = '+' ∨ c = '-'

instance : DecidablePred IsMark := fun c =>
  inferInstanceAs (Decidable (c.isDigit = true ∨ c = '_' ∨ c = '+' ∨ c = '-'))

theorem isMark_of_readMagnitude {cs : List Char} {n : Nat} (h : readMagnitude cs = .ok n) :
    ∀ c ∈ cs, IsMark c := by
  intro c hc
  rcases mem_dropSign '+' hc with rfl | hc
  · exact .inr (.inr (.inl rfl))
  · rw [readMagnitude] at h
    split at h
    · cases h
    · rename_i first rest hcs
      split at h
      · rename_i hall
        rw [hcs] at hc
        have hmark := List.all_eq_true.1 hall.2 c hc
        rw [Bool.or_eq_true, beq_iff_eq] at hmark
        exact hmark.imp_right .inl
      · cases h

theorem isMark_of_readInt {cs : List Char} {n : Int} (h : readInt cs = .ok n) : ∀ c ∈ cs, IsMark c := by
  intro c hc
  rw [readInt] at h
  split at h
  · rcases mem_dropSign '-' hc with rfl | hc
    · exact .inr (.inr (.inr rfl))
    · obtain ⟨_, hread, -⟩ := Outcome.map_eq_ok_iff.1 h
      obtain ⟨_, hmagnitude, -⟩ := Outcome.bind_eq_ok_iff.1 hread
      exact isMark_of_readMagnitude hmagnitude c hc
  · obtain ⟨_, hread, -⟩ := Outcome.map_eq_ok_iff.1 h
    obtain ⟨_, hmagnitude, -⟩ := Outcome.bind_eq_ok_iff.1 hread
    exact isMark_of_readMagnitude hmagnitude c hc

end StorageQuery.Decimal
