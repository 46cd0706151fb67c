import StorageQuery.Proofs.Key.Document
import StorageQuery.Proofs.Table.Paired
import StorageQuery.Proofs.Table.Run
set_option autoImplicit false

namespace StorageQuery.Key

theorem same_of_scalar {a : Key} (h : a.isComposite = false) (b : Key) :
    a.same b = (!b.isComposite && a.canonical == b.canonical) := by
  cases a with
  | composite fields => cases h
  | _ => rw [same]

theorem same_scalar {b : Key} (h : b.isComposite = false) (a : Key) :
    a.same b = (!a.isComposite && a.canonical == b.canonical) := by
  cases a with
  | composite fields =>
    cases b with
    | composite _ => cases h
    | _ => simp [same, isComposite]
  | _ =>
    rw [same_of_scalar rfl, h]
    rfl

theorem sameFields_iff {as bs : List (String × Key)} :
    sameFields as bs = true ↔
      ∀ field ∈ as, ∃ b, Table.find? (· == ·) field.1 bs = some b ∧ b.same field.2 = true := by
  induction as with
  | nil => simp [sameFields]
  | cons field rest ih =>
    obtain ⟨name, a⟩ := field
    rw [sameFields, Bool.and_eq_true, ih, List.forall_mem_cons]
    cases Table.find? (· == ·) name bs <;> simp

theorem same_composite {as bs : List (String × Key)} :
    (composite as).same (.composite bs) = true ↔ Table.Paired (fun a b => b.same a = true) as bs := by
  rw [same, Bool.and_eq_true, beq_iff_eq, sameFields_iff, Table.Paired]

-- Fields are compared the other way round than their records, so both directions go into each induction.
mutual
theorem same_comm : (a b : Key) → a.WellFormed → b.WellFormed → a.same b = b.same a
  | .composite as, .composite bs, ha, hb => by
    have hfield : ∀ a ∈ as, ∀ b ∈ bs, a.2.same b.2 = b.2.same a.2 := fun a hma b hmb =>
      same_comm_of_mem as ha.2 a hma b.2 (wellFormedFields_iff.1 hb.2 b hmb)
    rw [Bool.eq_iff_iff, same_composite, same_composite]
    constructor
    · intro h
      exact (h.flip ha.1 hb.1).imp_of_mem fun b hmb a hma hsame => (hfield a hma b hmb).trans hsame
    · intro h
      exact (h.flip hb.1 ha.1).imp_of_mem fun a hma b hmb hsame => (hfield a hma b hmb).symm.trans hsame
  | .bool _, b, _, _ | .number _, b, _, _ | .string _, b, _, _ => by
    rw [same_of_scalar rfl, same_scalar rfl, Bool.beq_comm]
  | .composite _, .bool _, _, _ | .composite _, .number _, _, _ | .composite _, .string _, _, _ => by
    rw [same_scalar rfl, same_of_scalar rfl, Bool.beq_comm]
theorem same_comm_of_mem : (as : List (String × Key)) → WellFormedFields as → ∀ field ∈ as,
    ∀ b : Key, b.WellFormed → field.2.same b = b.same field.2
  | [], _, _, hm, _, _ => nomatch hm
  | (_, a) :: rest, hw, field, hm, b, hb => by
    rcases List.mem_cons.1 hm with rfl | hm
    · exact same_comm a b hw.1 hb
    · exact same_comm_of_mem rest hw.2 field hm b hb
end

mutual
theorem same_refl : (key : Key) → key.WellFormed → key.same key = true
  | .composite fields, h => same_composite.2 (Table.Paired.refl h.1 (same_refl_of_mem fields h.2))
  | .bool _, _ | .number _, _ | .string _, _ => by
    rw [same_of_scalar rfl]
    exact Bool.and_eq_true_iff.2 ⟨rfl, beq_self_eq_true _⟩
theorem same_refl_of_mem : (fields : List (String × Key)) → WellFormedFields fields →
    ∀ field ∈ fields, field.2.same field.2 = true
  | [], _, _, hm => nomatch hm
  | (_, key) :: rest, hw, field, hm => by
    rcases List.mem_cons.1 hm with rfl | hm
    · exact same_refl key hw.1
    · exact same_refl_of_mem rest hw.2 field hm
end

theorem same_composite_of_scalar {a b : Key} (ha : a.isComposite = false) (hb : b.isComposite = true) :
    a.same b = false ∧ b.same a = false := by
  rw [same_of_scalar ha, same_scalar ha, hb]
  exact ⟨rfl, rfl⟩

theorem isComposite_eq_of_same {a b : Key} (h : a.same b = true) : a.isComposite = b.isComposite := by
  cases ha : a.isComposite <;> cases hb : b.isComposite
  · rfl
  · rw [(same_composite_of_scalar ha hb).1] at h
    cases h
  · rw [(same_composite_of_scalar hb ha).2] at h
    cases h
  · rfl

theorem canonical_eq_of_same_scalar {a b : Key} (ha : a.isComposite = false) (h : a.same b = true) :
    a.canonical = b.canonical := by
  rw [same_of_scalar ha, Bool.and_eq_true, beq_iff_eq] at h
  exact h.2

theorem same_trans_of_scalar {a b c : Key} (ha : a.isComposite = false) (hab : a.same b = true)
    (hbc : b.same c = true) : a.same c = true := by
  have hb : b.isComposite = false := (isComposite_eq_of_same hab).symm.trans ha
  have hc : c.isComposite = false := (isComposite_eq_of_same hbc).symm.trans hb
  rw [same_of_scalar ha, hc, canonical_eq_of_same_scalar ha hab, canonical_eq_of_same_scalar hb hbc]
  exact beq_self_eq_true _

mutual
theorem same_trans_both : (a b c : Key) → (a.same b = true → b.same c = true → a.same c = true) ∧
    (c.same b = true → b.same a = true → c.same a = true)
  | .composite as, .composite bs, .composite cs => by
    simp only [same_composite]
    refine ⟨fun hab hbc => ?_, fun hcb hba => ?_⟩
    · exact (hab.comp hbc).imp_of_mem fun a hma c _ ⟨b, hsame, hsame'⟩ =>
        (same_trans_both_of_mem as a hma b c.2).2 hsame' hsame
    · exact (hcb.comp hba).imp_of_mem fun c _ a hma ⟨b, hsame, hsame'⟩ =>
        (same_trans_both_of_mem as a hma b c.2).1 hsame' hsame
  | .bool _, b, c | .number _, b, c | .string _, b, c => by
    refine ⟨same_trans_of_scalar rfl, fun hcb hba => ?_⟩
    exact same_trans_of_scalar ((isComposite_eq_of_same hcb).trans (isComposite_eq_of_same hba)) hcb hba
  | .composite _, .bool _, c | .composite _, .number _, c | .composite _, .string _, c =>
    ⟨fun hab => (Bool.false_ne_true (isComposite_eq_of_same hab).symm).elim,
      fun _ hba => (Bool.false_ne_true (isComposite_eq_of_same hba)).elim⟩
  | .composite _, .composite _, .bool _ | .composite _, .composite _, .number _
  | .composite _, .composite _, .string _ =>
    ⟨fun _ hbc => (Bool.false_ne_true (isComposite_eq_of_same hbc).symm).elim,
      fun hcb => (Bool.false_ne_true (isComposite_eq_of_same hcb)).elim⟩
theorem same_trans_both_of_mem : (as : List (String × Key)) → ∀ field ∈ as, ∀ b c : Key,
    (field.2.same b = true → b.same c = true → field.2.same c = true) ∧
      (c.same b = true → b.same field.2 = true → c.same field.2 = true)
  | [], _, hm, _, _ => nomatch hm
  | (_, a) :: rest, field, hm, b, c => by
    rcases List.mem_cons.1 hm with rfl | hm
    · exact same_trans_both a b c
    · exact same_trans_both_of_mem rest field hm b c
end

theorem same_symm (a b : Key) (ha : a.WellFormed) (hb : b.WellFormed) (h : a.same b = true) : b.same a = true :=
  (same_comm a b ha hb).symm.trans h

theorem same_trans (a b c : Key) : a.same b = true → b.same c = true → a.same c = true :=
  (same_trans_both a b c).1

theorem lawful : Table.Lawful same WellFormed where
  refl := same_refl _
  symm := same_symm _ _
  trans _ _ _ := same_trans _ _ _

theorem same_composite_iff {as bs : List (String × Key)} (ha : (Key.composite as).WellFormed)
    (hb : (Key.composite bs).WellFormed) :
    (Key.composite as).same (.composite bs) = true ↔
      (∀ name, name ∈ Table.keys as ↔ name ∈ Table.keys bs) ∧
        ∀ name a b, (name, a) ∈ as → (name, b) ∈ bs → a.same b = true := by
  rw [same_composite, Table.paired_iff ha.1 hb.1]
  refine and_congr_right fun _ => forall_congr' fun name => forall_congr' fun a => forall_congr' fun b =>
    forall_congr' fun hma => forall_congr' fun hmb => ?_
  rw [same_comm b a (wellFormedFields_iff.1 hb.2 _ hmb) (wellFormedFields_iff.1 ha.2 _ hma)]

end StorageQuery.Key
