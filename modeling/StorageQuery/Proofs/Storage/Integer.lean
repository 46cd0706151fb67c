import StorageQuery.Proofs.Storage.Violation
import StorageQuery.Proofs.Text.Decimal
set_option autoImplicit false

namespace StorageQuery

theorem Number.fits_iff {n : Int} : Fits n ↔ -2 ^ 63 ≤ n ∧ n ≤ 2 ^ 64 - 1 := by
  unfold Fits
  omega

theorem Double.DecimalForm.mark_mem_text (d : DecimalForm) : '.' ∈ d.text ∨ 'e' ∈ d.text := by
  rw [DecimalForm.text]
  dsimp only
  split
  · split
    · exact .inl (List.mem_append_right _ List.mem_cons_self)
    · exact .inl (List.mem_append_right _ List.mem_cons_self)
  · split
    · exact .inl (List.mem_cons_of_mem _ List.mem_cons_self)
    · exact .inr (List.mem_append_right _ List.mem_cons_self)

theorem Double.mark_mem_text (x : Double) : '.' ∈ x.text ∨ 'e' ∈ x.text := by
  have hbody : '.' ∈ (if x.magnitude = 0 then ['0', '.', '0'] else (shortest x.magnitude).text) ∨
      'e' ∈ (if x.magnitude = 0 then ['0', '.', '0'] else (shortest x.magnitude).text) := by
    split
    · exact .inl (by decide)
    · exact (shortest x.magnitude).mark_mem_text
  rw [text]
  split
  · exact hbody.imp (List.mem_cons_of_mem _) (List.mem_cons_of_mem _)
  · exact hbody

theorem Double.readInt_text_ne_ok (x : Double) (n : Int) : Decimal.readInt x.text ≠ .ok n := by
  intro h
  have hmarks := Decimal.isMark_of_readInt h
  rcases x.mark_mem_text with hpoint | hexponent
  · exact absurd (hmarks _ hpoint) (by decide)
  · exact absurd (hmarks _ hexponent) (by decide)

theorem WidePolicy.hasText_of_narrow {policy : WidePolicy} {n : Int} {json : Json} (h : policy.narrow n = .ok json) :
    json.HasText (toString n) ∨ json = .number (.real (Double.ofInt n)) := by
  by_cases hfits : Number.Fits n
  · rw [policy.narrow_of_fits hfits] at h
    cases h
    exact .inl (.inr ⟨.integer n hfits, rfl, Decimal.ofInt_eq_toString n⟩)
  · rw [policy.narrow_of_not_fits hfits] at h
    cases policy with
    | lossy =>
      cases h
      exact .inr rfl
    | strict => cases h
    | string =>
      cases h
      exact .inl (.inl (congrArg Json.string (Decimal.ofInt_eq_toString n)))

namespace Storage

theorem ofInt_of_digits {json : Json} {n : Int} (h : json.HasText (toString n)) : ofInt json = .ok (.bigInt n) := by
  rw [ofInt_of_hasText h, ← Decimal.ofInt_eq_toString, String.toList_ofList, Decimal.readInt_ofInt]

theorem ofInt_real (x : Double) : ∃ e, ofInt (.number (.real x)) = .error e := by
  have htext : (Json.number (.real x)).HasText (Number.text (.real x)) := .inr ⟨.real x, rfl, rfl⟩
  rw [ofInt_of_hasText htext, Number.text, String.toList_ofList, Number.chars]
  cases hread : Decimal.readInt x.text with
  | ok n => exact absurd hread (x.readInt_text_ne_ok n)
  | error fault => exact ⟨_, rfl⟩

variable {policy : WidePolicy} {n : Int} {json : Json}

theorem ofDocument_int_of_shown (resolver : Option Resolver) (h : (bigInt n).toPlain policy = .ok json)
    (hexact : json ≠ .number (.real (Double.ofInt n))) :
    ofDocument resolver (Tag.int.wrap json) = .ok (.bigInt n) := by
  rw [ofDocument_wrap]
  exact ofInt_of_digits ((WidePolicy.hasText_of_narrow h).resolve_right hexact)

theorem exists_shown_string (n : Int) :
    ∃ json, (bigInt n).toPlain .string = .ok json ∧ json ≠ .number (.real (Double.ofInt n)) := by
  by_cases hfits : Number.Fits n
  · exact ⟨_, WidePolicy.narrow_of_fits .string hfits, by simp⟩
  · exact ⟨_, WidePolicy.narrow_of_not_fits .string hfits, by simp⟩

/-- An integer of at most 64 bits, signed or unsigned, is shown as that number under every policy. Others are
refused, or shown by their digits, or as the nearest double, and it is only then that the tag of integers does
not lead back to the integer: it leads to an error. So where digits are asked for, what is shown of two integers
differs. -/
theorem integer_reads_back (policy : WidePolicy) (n : Int) :
    (-2 ^ 63 ≤ n ∧ n ≤ 2 ^ 64 - 1 →
      ∃ fits, (bigInt n).toPlain policy = .ok (.number (.integer n fits))) ∧
    (¬ (-2 ^ 63 ≤ n ∧ n ≤ 2 ^ 64 - 1) →
      (bigInt n).toPlain .strict = .error (.tooWide n) ∧
      (bigInt n).toPlain .string = .ok (.string (toString n)) ∧
      (bigInt n).toPlain .lossy = .ok (.number (.real (Double.ofInt n)))) ∧
    (∀ json, (bigInt n).toPlain policy = .ok json → ∀ resolver,
      (json ≠ .number (.real (Double.ofInt n)) →
        ofDocument resolver (Tag.int.wrap json) = .ok (.bigInt n)) ∧
      (json = .number (.real (Double.ofInt n)) → ∃ e, ofDocument resolver (Tag.int.wrap json) = .error e)) ∧
    (∃ json, (bigInt n).toPlain .string = .ok json ∧
      ∀ resolver, ofDocument resolver (Tag.int.wrap json) = .ok (.bigInt n)) ∧
    (∀ m, (bigInt m).toPlain .string = (bigInt n).toPlain .string → m = n) := by
  refine ⟨fun hbounds => ?_, fun hbounds => ?_, fun json hjson resolver => ⟨?_, ?_⟩, ?_, fun m hsame => ?_⟩
  · have hfits := Number.fits_iff.2 hbounds
    exact ⟨hfits, policy.narrow_of_fits hfits⟩
  · have hfits : ¬ Number.Fits n := fun h => hbounds (Number.fits_iff.1 h)
    refine ⟨WidePolicy.narrow_of_not_fits .strict hfits, ?_, WidePolicy.narrow_of_not_fits .lossy hfits⟩
    rw [← Decimal.ofInt_eq_toString]
    exact WidePolicy.narrow_of_not_fits .string hfits
  · exact ofDocument_int_of_shown resolver hjson
  · rintro rfl
    rw [ofDocument_wrap]
    exact ofInt_real _
  · obtain ⟨json, hjson, hexact⟩ := exists_shown_string n
    exact ⟨json, hjson, fun resolver => ofDocument_int_of_shown resolver hjson hexact⟩
  · obtain ⟨json, hjson, hexact⟩ := exists_shown_string m
    obtain ⟨json', hjson', hexact'⟩ := exists_shown_string n
    obtain rfl : json = json' := Except.ok.inj (hjson.symm.trans (hsame.trans hjson'))
    have hread := ofDocument_int_of_shown none hjson hexact
    rw [ofDocument_int_of_shown none hjson' hexact'] at hread
    exact (Storage.bigInt.inj (Except.ok.inj hread)).symm

/-- The last integers of 64 bits, unsigned and signed, and the next ones. -/
theorem integer_reads_back_at_bounds :
    (∃ fits, (bigInt 18446744073709551615).toPlain .lossy = .ok (.number (.integer 18446744073709551615 fits))) ∧
    (∃ fits, (bigInt (-9223372036854775808)).toPlain .string =
      .ok (.number (.integer (-9223372036854775808) fits))) ∧
    (bigInt 18446744073709551616).toPlain .string = .ok (.string "18446744073709551616") ∧
    (bigInt (-9223372036854775809)).toPlain .strict = .error (.tooWide (-9223372036854775809)) ∧
    ofDocument none (Tag.int.wrap (.string "18446744073709551616")) = .ok (.bigInt 18446744073709551616) := by
  obtain ⟨hunsigned, -⟩ := integer_reads_back .lossy 18446744073709551615
  obtain ⟨hsigned, -⟩ := integer_reads_back .string (-9223372036854775808)
  obtain ⟨-, habove, hreads, -⟩ := integer_reads_back .string 18446744073709551616
  obtain ⟨-, hbelow, -⟩ := integer_reads_back .strict (-9223372036854775809)
  obtain ⟨-, hdigits, -⟩ := habove (by decide)
  exact ⟨hunsigned (by decide), hsigned (by decide), hdigits, (hbelow (by decide)).1,
    (hreads _ hdigits none).1 (by simp)⟩

end Storage

end StorageQuery
