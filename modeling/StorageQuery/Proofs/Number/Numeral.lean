import StorageQuery.Proofs.Json.Spelling
import StorageQuery.Proofs.Number.Shortest
import StorageQuery.Proofs.Text.Decimal
set_option autoImplicit false

namespace StorageQuery

open Json.Spelling

theorem Decimal.digits_spelling (n : Nat) : Digits (digits n) :=
  ⟨digits_ne_nil n, fun _ => isDigit_of_mem_digits⟩

theorem Decimal.whole_digits (n : Nat) : Whole (digits n) := by
  by_cases hzero : n = 0
  · subst hzero
    exact .zero
  · have hhead := head?_digits hzero
    have hdigits : ∀ c ∈ digits n, c.isDigit = true := fun _ => isDigit_of_mem_digits
    cases hds : digits n with
    | nil => exact absurd hds (digits_ne_nil n)
    | cons c cs =>
      rw [hds] at hhead hdigits
      exact .digits (hdigits c List.mem_cons_self) (fun heq => hhead (congrArg some heq)) fun d hd =>
        hdigits d (.tail _ hd)

def Json.Spelling.Unsigned (cs : List Char) : Prop :=
  ∃ whole fraction power, cs = whole ++ (fraction ++ power) ∧ Whole whole ∧ Fraction fraction ∧ Power power

theorem Json.Spelling.Unsigned.numeral {cs : List Char} (h : Unsigned cs) (negative : Bool) :
    Numeral (if negative then '-' :: cs else cs) := by
  obtain ⟨whole, fraction, power, rfl, hw, hf, hp⟩ := h
  cases negative with
  | true => exact .mk (.inr rfl) hw hf hp
  | false => exact .mk (.inl rfl) hw hf hp

theorem Decimal.unsigned_digits (n : Nat) : Unsigned (digits n) :=
  ⟨digits n, [], [], by simp, whole_digits n, .none, .none⟩

theorem Decimal.numeral_ofInt (n : Int) : Numeral (ofInt n) := by
  cases n with
  | ofNat n => exact (unsigned_digits n).numeral false
  | negSucc n => exact (unsigned_digits (n + 1)).numeral true

theorem Decimal.power_digits (n : Int) :
    Power ('e' :: (if n < 0 then '-' else '+') :: digits n.natAbs) := by
  have hsign : [if n < 0 then '-' else '+'] = ['+'] ∨ [if n < 0 then '-' else '+'] = ['-'] := by
    split
    · exact .inr rfl
    · exact .inl rfl
  exact .some (.inl rfl) (.inr hsign) (digits_spelling _)

theorem Double.unsigned_text {form : DecimalForm} {c : Char} {cs : List Char} (hform : form.digits = c :: cs)
    (hc : c ≠ '0') (hd : c.isDigit = true) (hds : ∀ d ∈ cs, d.isDigit = true) : Unsigned form.text := by
  obtain ⟨digits, point⟩ := form
  obtain rfl : digits = c :: cs := hform
  have hdigit : ∀ d ∈ c :: cs, d.isDigit = true := List.forall_mem_cons.2 ⟨hd, hds⟩
  have hzeros (count : Nat) : ∀ d ∈ List.replicate count '0', d.isDigit = true :=
    fun _ => Decimal.isDigit_of_mem_zeros
  rw [DecimalForm.text]
  dsimp only
  split
  · rename_i hpoint
    split
    · -- an integer, with zeros up to the point
      refine ⟨c :: (cs ++ List.replicate (point - (c :: cs).length).toNat '0'), ['.', '0'], [], by simp,
        .digits hd hc fun d hm => ?_, .some ⟨nofun, fun d hm => ?_⟩, .none⟩
      · rcases List.mem_append.1 hm with hm | hm
        · exact hds d hm
        · exact hzeros _ d hm
      · cases List.mem_singleton.1 hm
        rfl
    · -- the point stands among the digits
      rename_i hlength
      obtain ⟨before, hbefore⟩ : ∃ before, point.toNat = before + 1 := ⟨point.toNat - 1, by omega⟩
      refine ⟨c :: cs.take before, '.' :: cs.drop before, [], by simp [hbefore],
        .digits hd hc fun d hm => hds d (List.mem_of_mem_take hm),
        .some ⟨fun hnil => ?_, fun d hm => hds d (List.mem_of_mem_drop hm)⟩, .none⟩
      rw [List.drop_eq_nil_iff] at hnil
      rw [List.length_cons] at hlength
      omega
  · split
    · refine ⟨['0'], '.' :: (List.replicate (-point).toNat '0' ++ c :: cs), [], by simp, .zero,
        .some ⟨by simp, fun d hm => ?_⟩, .none⟩
      rcases List.mem_append.1 hm with hm | hm
      · exact hzeros _ d hm
      · exact hdigit d hm
    · -- with an exponent, and a point only if there are more digits
      have hpower := Decimal.power_digits (point - 1)
      cases cs with
      | nil => exact ⟨[c], [], _, by simp, .digits hd hc nofun, .none, hpower⟩
      | cons d ds =>
        refine ⟨[c], '.' :: d :: ds, _, ?_, .digits hd hc nofun, .some ⟨nofun, hds⟩, hpower⟩
        have hmore : ¬ (((c :: d :: ds).length : Int) = 1) := by
          simp only [List.length_cons]
          omega
        rw [if_neg hmore]
        simp

theorem Double.numeral_text (x : Double) : Numeral x.text := by
  have hbody : Unsigned (if x.magnitude = 0 then ['0', '.', '0'] else (shortest x.magnitude).text) := by
    split
    · exact ⟨['0'], ['.', '0'], [], rfl, .zero, .some ⟨nofun, by simp⟩, .none⟩
    · rename_i hm
      obtain ⟨c, cs, hform, hc, hd, hds⟩ := digits_shortest (Nat.pos_of_ne_zero hm)
      exact unsigned_text hform hc hd hds
  exact hbody.numeral x.negative

theorem Number.takeDigits_of_lt {significand : Nat} {cs : List Char}
    (h : Nat.ofDigitChars 10 cs significand < 18446744073709551616) :
    takeDigits significand cs = (Nat.ofDigitChars 10 cs significand, []) := by
  induction cs generalizing significand with
  | nil => rfl
  | cons c cs ih =>
    rw [Nat.ofDigitChars_cons] at h ⊢
    -- with more digits the significand only grows, so there is room for each of them
    have hroom : 10 * significand + (c.toNat - 48) < 18446744073709551616 := by
      refine Nat.lt_of_le_of_lt ?_ h
      rw [Nat.ofDigitChars_eq_ofDigitChars_zero]
      exact (Nat.le_mul_of_pos_left _ (Nat.pow_pos (by decide))).trans (Nat.le_add_right _ _)
    rw [takeDigits]
    exact (if_pos hroom).trans (ih h)

theorem Number.takeDigits_digits {n : Nat} (h : n < 18446744073709551616) :
    takeDigits 0 (Decimal.digits n) = (n, []) := by
  have hvalue : Nat.ofDigitChars 10 (Decimal.digits n) 0 = n := Decimal.value_digits n
  rw [takeDigits_of_lt (hvalue.symm ▸ h), hvalue]

theorem Number.ofNumeral?_digits {negative : Bool} {k : Nat} {n : Int} (h : Fits n)
    (hvalue : (if negative then -(k : Int) else k) = n) (hzero : negative = true → k ≠ 0) :
    ofNumeral? ⟨negative, Decimal.digits k, none, none⟩ = some (.integer n h) := by
  have hroom : k < 18446744073709551616 := by
    cases negative with
    | true =>
      rw [if_pos rfl] at hvalue
      omega
    | false =>
      rw [if_neg Bool.false_ne_true] at hvalue
      omega
  have hplain : ¬ (negative && k == 0) = true := by
    rw [Bool.and_eq_true, beq_iff_eq]
    exact fun hboth => hzero hboth.1 hboth.2
  simp only [ofNumeral?, Option.getD_none, takeDigits_digits hroom, takeDigits, Option.isSome_none,
    List.isEmpty_nil, Bool.not_true, Bool.false_or, if_neg hplain, hvalue, ofInt?, dif_pos h]

/-- The nearest double is the largest one, but the significand times the power of ten is rounded on its own. -/
example : Number.ofNumeral? ⟨false, ['1'], some "7976931348623158".toList, some 308⟩ = none := by
  decide +kernel

theorem Number.numeral_chars (n : Number) : Json.Spelling.Numeral n.chars := by
  cases n with
  | integer n fits => exact Decimal.numeral_ofInt n
  | real x => exact x.numeral_text

end StorageQuery
