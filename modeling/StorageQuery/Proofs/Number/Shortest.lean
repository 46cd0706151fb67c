import Mathlib.Tactic.Linarith
import Mathlib.Tactic.Ring
import StorageQuery.Number.Shortest
/-!
The digits of a double. The finest of the grids that are searched is finer than the interval of any double, so
that one of them has a hit, and the hit is a number other than zero.
-/

set_option autoImplicit false

namespace StorageQuery

namespace Decimal

theorem head?_digits {n : Nat} (h : n ≠ 0) : (digits n).head? ≠ some '0' := by
  induction n using Nat.strongRecOn with
  | ind n ih =>
    rw [digits, Nat.toDigits_eq_if (by decide)]
    split
    · rename_i hlt
      exact (by decide : ∀ n < 10, n ≠ 0 → [n.digitChar].head? ≠ some '0') n hlt h
    · rename_i hge
      have hhead := ih (n / 10) (by omega) (by omega)
      rw [digits] at hhead
      cases hd : Nat.toDigits 10 (n / 10) with
      | nil => exact absurd hd Nat.toDigits_ne_nil
      | cons c cs => rwa [hd] at hhead

theorem length_digits_pos (n : Nat) : 0 < (digits n).length := Nat.length_toDigits_pos

theorem lt_pow_length_digits (n : Nat) : n < 10 ^ (digits n).length :=
  (Nat.length_toDigits_le_iff (by decide) (length_digits_pos n)).1 (Nat.le_refl _)

theorem pow_length_digits_le {n : Nat} (h : n ≠ 0) : 10 ^ ((digits n).length - 1) ≤ n := by
  rcases Nat.eq_zero_or_pos ((digits n).length - 1) with hone | hmore
  · rw [hone]
    exact Nat.one_le_iff_ne_zero.2 h
  · refine Nat.not_lt.1 fun hlt => ?_
    have hlength : (digits n).length ≤ (digits n).length - 1 :=
      (Nat.length_toDigits_le_iff (by decide) hmore).2 hlt
    omega

end Decimal

namespace Double

theorem pow_pointOf_le {num den : Nat} (hnum : 0 < num) (hden : 0 < den) :
    den * 10 ^ (pointOf num den - 1).toNat ≤ num * 10 ^ (1 - pointOf num den).toNat := by
  rw [pointOf]
  split
  · rename_i hle
    have hpos := Decimal.length_digits_pos (num / den)
    have hpow := Decimal.pow_length_digits_le (Nat.div_pos hle hden).ne'
    have hup : (((Decimal.digits (num / den)).length : Int) - 1).toNat =
        (Decimal.digits (num / den)).length - 1 := by omega
    have hdown : (1 - ((Decimal.digits (num / den)).length : Int)).toNat = 0 := by omega
    rw [hup, hdown, Nat.pow_zero, Nat.mul_one]
    exact (Nat.mul_le_mul_left den hpow).trans (Nat.mul_div_le num den)
  · have hlt := Decimal.lt_pow_length_digits ((den + num - 1) / num - 1)
    generalize (Decimal.digits ((den + num - 1) / num - 1)).length = length at hlt
    have hup : (1 - (length : Int) - 1).toNat = 0 := by omega
    have hdown : (1 - (1 - (length : Int))).toNat = length := by omega
    have hquotient : (den + num - 1) / num < 10 ^ length + 1 := by omega
    rw [Nat.div_lt_iff_lt_mul hnum, Nat.add_mul, Nat.one_mul] at hquotient
    rw [hup, hdown, Nat.pow_zero, Nat.mul_one, Nat.mul_comm num]
    omega

/-- What an interval of a double is like: the ends are not far from the value, but not too close either. -/
structure Interval.Wide (i : Interval) : Prop where
  low_pos : 0 < i.low
  den_pos : 0 < i.den
  low_lt : i.low < i.value
  lt_high : i.value < i.high
  width : i.value < (i.high - i.low) * 10 ^ 16

theorem significand_pos {m : Nat} (h : 0 < m) : 0 < significand m := by
  rw [significand]
  split
  · exact h
  · exact Nat.add_pos_left (by decide) _

theorem significand_lt (m : Nat) : significand m < 2 * binade := by
  have hmod : m % binade < binade := Nat.mod_lt m (by decide)
  rw [significand]
  split
  · exact Nat.lt_of_lt_of_le ‹_› (by decide)
  · omega

theorem interval_wide {m : Nat} (h : 0 < m) : (interval m).Wide := by
  have hup : 0 < Nat.pow 2 (exponent m - 2).toNat := Nat.pow_pos (by decide)
  have hden : 0 < Nat.pow 2 (-(exponent m - 2)).toNat := Nat.pow_pos (by decide)
  -- how far below the value the interval reaches, in quarters of a unit, like the value itself
  have hbelow : ∃ below, 0 < below ∧ below ≤ 2 ∧ 4 * significand m < (below + 2) * 10 ^ 16 ∧
      interval m = ⟨(4 * significand m - below) * Nat.pow 2 (exponent m - 2).toNat,
        4 * significand m * Nat.pow 2 (exponent m - 2).toNat,
        (4 * significand m + 2) * Nat.pow 2 (exponent m - 2).toNat,
        Nat.pow 2 (-(exponent m - 2)).toNat, m % 2 == 0⟩ := by
    have hlt := significand_lt m
    by_cases hpower : 2 * binade ≤ m ∧ m % binade = 0
    · refine ⟨1, by decide, by decide, ?_, by rw [interval, if_pos hpower]⟩
      have hlarge : ¬ m < binade := by omega
      rw [significand, if_neg hlarge, hpower.2]
      decide
    · refine ⟨2, by decide, by decide, ?_, by rw [interval, if_neg hpower]⟩
      rw [binade] at hlt
      omega
  obtain ⟨below, hpos, hle, hwidth, heq⟩ := hbelow
  have hless : below < 4 * significand m := by
    have := significand_pos h
    omega
  rw [heq]
  clear heq
  generalize 4 * significand m = s at *
  generalize Nat.pow 2 (exponent m - 2).toNat = up at *
  refine ⟨Nat.mul_pos (by omega) hup, hden, Nat.mul_lt_mul_of_pos_right (by omega) hup,
    Nat.mul_lt_mul_of_pos_right (by omega) hup, ?_⟩
  have hgap : s + 2 - (s - below) = below + 2 := by omega
  rw [← Nat.sub_mul, hgap, Nat.mul_right_comm]
  exact Nat.mul_lt_mul_of_pos_right hwidth hup

namespace Interval

variable {i : Interval} (h : i.Wide) {power : Int} {c : Nat}

theorem holds_of_lt (hlow : i.low * 10 ^ (-power).toNat < c * 10 ^ power.toNat * i.den)
    (hhigh : c * 10 ^ power.toNat * i.den < i.high * 10 ^ (-power).toNat) : i.holds c power = true := by
  simp only [holds, Nat.pow_eq]
  split
  · simp [hlow.le, hhigh.le]
  · simp [hlow, hhigh]

include h

theorem pos_of_holds (hc : i.holds c power = true) : 0 < c := by
  have hdown : 0 < i.low * 10 ^ (-power).toNat := Nat.mul_pos h.low_pos (Nat.pow_pos (by decide))
  refine Nat.pos_of_ne_zero fun hzero => ?_
  subst hzero
  simp only [holds, Nat.pow_eq, Nat.zero_mul] at hc
  split at hc
  · simp only [Bool.and_eq_true, decide_eq_true_eq] at hc
    omega
  · simp only [Bool.and_eq_true, decide_eq_true_eq] at hc
    omega

theorem onGrid?_pos (hc : i.onGrid? power = some c) : 0 < c := by
  simp only [onGrid?] at hc
  split at hc
  · rename_i hfirst _
    have hpos := pos_of_holds h hfirst
    split at hc
    · cases hc
      exact hpos
    · split at hc
      · cases hc
        exact Nat.succ_pos _
      · cases hc
        exact Nat.add_pos_left hpos _
  · rename_i hfirst _
    cases hc
    exact pos_of_holds h hfirst
  · cases hc
    exact Nat.succ_pos _
  · cases hc

/-- On a grid that is finer than the interval, one of the two neighbours is in it. -/
theorem onGrid?_isSome
    (hfine : i.den * 10 ^ power.toNat < (i.high - i.low) * 10 ^ (-power).toNat) :
    (i.onGrid? power).isSome = true := by
  have hboth : i.holds (i.value * 10 ^ (-power).toNat / (i.den * 10 ^ power.toNat)) power = true ∨
      i.holds (i.value * 10 ^ (-power).toNat / (i.den * 10 ^ power.toNat) + 1) power = true := by
    have hdown : 0 < 10 ^ (-power).toNat := Nat.pow_pos (by decide)
    have hunit : 0 < i.den * 10 ^ power.toNat := Nat.mul_pos h.den_pos (Nat.pow_pos (by decide))
    have hlow := Nat.mul_lt_mul_of_pos_right h.low_lt hdown
    have hhigh := Nat.mul_lt_mul_of_pos_right h.lt_high hdown
    have hdiv := Nat.div_add_mod (i.value * 10 ^ (-power).toNat) (i.den * 10 ^ power.toNat)
    have hmod := Nat.mod_lt (i.value * 10 ^ (-power).toNat) hunit
    rw [Nat.sub_mul] at hfine
    have hswap (c : Nat) : c * 10 ^ power.toNat * i.den = i.den * 10 ^ power.toNat * c := by ring
    by_cases hnear : i.value * 10 ^ (-power).toNat % (i.den * 10 ^ power.toNat) <
        i.value * 10 ^ (-power).toNat - i.low * 10 ^ (-power).toNat
    · refine .inl (holds_of_lt ?_ ?_)
      · rw [hswap]
        omega
      · rw [hswap]
        omega
    · refine .inr (holds_of_lt ?_ ?_)
      · rw [hswap, Nat.mul_succ]
        omega
      · rw [hswap, Nat.mul_succ]
        omega
  simp only [onGrid?, Nat.pow_eq]
  split
  · split
    · rfl
    · split <;> rfl
  · rfl
  · rfl
  · rename_i hfirst hsecond
    rw [hfirst, hsecond] at hboth
    simp at hboth

theorem search_pos {count k : Nat} (hk : k < count) (hsome : (i.onGrid? (power - k)).isSome = true) :
    0 < (i.search count power).1 := by
  induction count generalizing power k with
  | zero => exact absurd hk (Nat.not_lt_zero k)
  | succ count ih =>
    rw [search]
    cases hfirst : i.onGrid? power with
    | some c => exact onGrid?_pos h hfirst
    | none =>
      cases k with
      | zero =>
        simp [hfirst] at hsome
      | succ k =>
        refine ih (Nat.lt_of_succ_lt_succ hk) ?_
        have hpower : power - 1 - (k : Int) = power - ((k + 1 : Nat) : Int) := by omega
        rw [hpower]
        exact hsome

end Interval

/-- The grid with seventeen digits is fine enough for every double. -/
theorem search_interval_pos {m : Nat} (h : 0 < m) :
    0 < ((interval m).search 17 (pointOf (interval m).value (interval m).den - 1)).1 := by
  have hwide := interval_wide h
  have hvalue : 0 < (interval m).value := Nat.lt_of_le_of_lt (Nat.zero_le _) hwide.low_lt
  have hpoint := pow_pointOf_le hvalue hwide.den_pos
  generalize pointOf (interval m).value (interval m).den = point at *
  refine Interval.search_pos hwide (by decide : 16 < 17) (Interval.onGrid?_isSome hwide ?_)
  have hexponents : (point - 1).toNat + (-(point - 1 - (16 : Nat))).toNat =
      (point - 1 - (16 : Nat)).toNat + ((1 - point).toNat + 16) := by omega
  generalize (-(point - 1 - (16 : Nat))).toNat = down at *
  generalize (point - 1 - (16 : Nat)).toNat = up at *
  generalize (point - 1).toNat = up' at *
  generalize (1 - point).toNat = down' at *
  generalize interval m = i at *
  refine Nat.lt_of_mul_lt_mul_right (a := 10 ^ (down' + 16)) ?_
  calc i.den * 10 ^ up * 10 ^ (down' + 16)
      = i.den * 10 ^ up' * 10 ^ down := by
        rw [Nat.mul_assoc, ← Nat.pow_add, ← hexponents, Nat.pow_add, Nat.mul_assoc]
    _ ≤ i.value * 10 ^ down' * 10 ^ down := Nat.mul_le_mul_right _ hpoint
    _ < (i.high - i.low) * 10 ^ 16 * 10 ^ down' * 10 ^ down :=
        Nat.mul_lt_mul_of_pos_right (Nat.mul_lt_mul_of_pos_right hwide.width (Nat.pow_pos (by decide)))
          (Nat.pow_pos (by decide))
    _ = (i.high - i.low) * 10 ^ down * 10 ^ (down' + 16) := by ring

end Double

theorem Decimal.trim_cons {c : Char} (hc : c ≠ '0') (cs : List Char) :
    ((c :: cs).reverse.dropWhile (· == '0')).reverse =
      c :: (cs.reverse.dropWhile (· == '0')).reverse := by
  have hkeep : List.dropWhile (· == '0') [c] = [c] := by simp [hc]
  rw [List.reverse_cons, List.dropWhile_append, hkeep]
  split
  · rename_i hempty
    rw [List.isEmpty_iff.1 hempty]
    rfl
  · rw [List.reverse_append]
    rfl

theorem Double.digits_shortest {m : Nat} (h : 0 < m) :
    ∃ c cs, (shortest m).digits = c :: cs ∧ c ≠ '0' ∧ c.isDigit = true ∧ ∀ d ∈ cs, d.isDigit = true := by
  have hpos := search_interval_pos h
  rw [shortest]
  dsimp only
  generalize (interval m).search 17 (pointOf (interval m).value (interval m).den - 1) = found at hpos
  have hhead := Decimal.head?_digits hpos.ne'
  have hdigits : ∀ d ∈ Decimal.digits found.1, d.isDigit = true := fun d =>
    Decimal.isDigit_of_mem_digits
  cases hds : Decimal.digits found.1 with
  | nil => exact absurd hds (Decimal.digits_ne_nil _)
  | cons c cs =>
    rw [hds] at hhead hdigits
    have hc : c ≠ '0' := fun heq => hhead (congrArg some heq)
    refine ⟨c, _, Decimal.trim_cons hc cs, hc, hdigits c List.mem_cons_self, fun d hd => ?_⟩
    have hmem := (List.dropWhile_suffix _).subset (List.mem_reverse.1 hd)
    exact hdigits d (.tail _ (List.mem_reverse.1 hmem))

end StorageQuery
