import Mathlib.Data.List.Perm.Subperm
import StorageQuery.Table
/-!
Lists and tables side by side. Lists are related item by item, and so are tables that are filled in the same
order. Tables whose keys are different are related key by key, in whatever order their entries stand; it is
enough that they have the same length and that each entry of the first has a counterpart in the second
(`paired_iff`).
-/

set_option autoImplicit false

namespace StorageQuery

section
variable {α β γ : Type} {R S : α → β → Prop} {as : List α} {bs : List β}

theorem forall₂_imp_of_mem (h : List.Forall₂ R as bs) (himp : ∀ a ∈ as, ∀ b ∈ bs, R a b → S a b) :
    List.Forall₂ S as bs := by
  induction h with
  | nil => exact .nil
  | cons hab _ ih =>
    refine .cons (himp _ List.mem_cons_self _ List.mem_cons_self hab) (ih fun a ha b hb => ?_)
    exact himp a (List.mem_cons_of_mem _ ha) b (List.mem_cons_of_mem _ hb)

theorem forall₂_comp {T : β → γ → Prop} {cs : List γ} (h : List.Forall₂ R as bs)
    (h' : List.Forall₂ T bs cs) : List.Forall₂ (fun a c => ∃ b, R a b ∧ T b c) as cs := by
  induction h generalizing cs with
  | nil =>
    cases h'
    exact .nil
  | cons hab _ ih =>
    cases h' with
    | cons hbc hrest => exact .cons ⟨_, hab, hbc⟩ (ih hrest)

theorem forall₂_getElem? (h : List.Forall₂ R as bs) (i : Nat) : Option.Rel R as[i]? bs[i]? := by
  induction h generalizing i with
  | nil => exact .none
  | cons hab _ ih =>
    cases i with
    | zero => exact .some hab
    | succ i => exact ih i

end

namespace Table

variable {κ ν ω : Type}

abbrev Alongside (R : ν → ω → Prop) (as : List (κ × ν)) (bs : List (κ × ω)) : Prop :=
  List.Forall₂ (fun e f => e.1 = f.1 ∧ R e.2 f.2) as bs

section
variable {R : ν → ω → Prop} {as s : List (κ × ν)} {bs t : List (κ × ω)} (same : κ → κ → Bool)

theorem alongside_cons_iff {k : κ} {v : ν} :
    Alongside R ((k, v) :: as) bs ↔ ∃ w others, R v w ∧ Alongside R as others ∧ bs = (k, w) :: others := by
  rw [Alongside, List.forall₂_cons_left_iff]
  constructor
  · rintro ⟨⟨_, w⟩, others, ⟨rfl, hvw⟩, hothers, rfl⟩
    exact ⟨w, others, hvw, hothers, rfl⟩
  · rintro ⟨w, others, hvw, hothers, rfl⟩
    exact ⟨(k, w), others, ⟨rfl, hvw⟩, hothers, rfl⟩

theorem Alongside.insert (k : κ) {v : ν} {w : ω} (hvw : R v w) (h : Alongside R s t) :
    Alongside R (insert same k v s) (Table.insert same k w t) := by
  induction h with
  | nil => exact .cons ⟨rfl, hvw⟩ .nil
  | @cons e f s t hef hrest ih =>
    obtain ⟨k', v'⟩ := e
    obtain ⟨k'', w'⟩ := f
    obtain ⟨rfl, hvalues⟩ := hef
    rw [Table.insert, Table.insert]
    split
    · exact .cons ⟨rfl, hvw⟩ hrest
    · exact .cons ⟨rfl, hvalues⟩ ih

theorem Alongside.insertAll (h : Alongside R as bs) (ht : Alongside R s t) :
    Alongside R (insertAll same s as) (Table.insertAll same t bs) := by
  induction h generalizing s t with
  | nil => exact ht
  | @cons e f as bs hef _ ih =>
    obtain ⟨k, v⟩ := e
    obtain ⟨l, w⟩ := f
    obtain ⟨rfl, hvw⟩ := hef
    exact ih (ht.insert same k hvw)

theorem Alongside.ofList (h : Alongside R as bs) : Alongside R (ofList same as) (Table.ofList same bs) :=
  h.insertAll same .nil

end

variable [BEq κ] {R : ν → ω → Prop} {as : List (κ × ν)} {bs : List (κ × ω)}

/-- The tables have one length, and what stands under a key of the first one has a counterpart under this key
in the second. -/
def Paired (R : ν → ω → Prop) (as : List (κ × ν)) (bs : List (κ × ω)) : Prop :=
  as.length = bs.length ∧ ∀ e ∈ as, ∃ w, find? (· == ·) e.1 bs = some w ∧ R e.2 w

theorem Paired.imp_of_mem {S : ν → ω → Prop} (h : Paired R as bs)
    (himp : ∀ e ∈ as, ∀ f ∈ bs, R e.2 f.2 → S e.2 f.2) : Paired S as bs := by
  refine ⟨h.1, fun e he => ?_⟩
  obtain ⟨w, hw, hew⟩ := h.2 e he
  obtain ⟨k, -, hm⟩ := mem_of_find? hw
  exact ⟨w, hw, himp e he (k, w) hm hew⟩

variable [LawfulBEq κ]

theorem Paired.keys_subset (h : Paired R as bs) : keys as ⊆ keys bs := by
  intro k hk
  obtain ⟨e, he, rfl⟩ := List.mem_map.1 hk
  obtain ⟨w, hw, -⟩ := h.2 e he
  obtain ⟨k', hk', hm⟩ := mem_of_find? hw
  exact eq_of_beq hk' ▸ List.mem_map_of_mem hm

theorem Paired.mem_keys_iff (ha : Distinct (· == ·) as) (h : Paired R as bs) (k : κ) :
    k ∈ keys as ↔ k ∈ keys bs := by
  have hlength : (keys bs).length ≤ (keys as).length := by simp [keys, h.1]
  have hsubperm := List.subperm_of_subset (nodup_keys ha) h.keys_subset
  exact (hsubperm.perm_of_length_le hlength).mem_iff

theorem paired_iff (ha : Distinct (· == ·) as) (hb : Distinct (· == ·) bs) :
    Paired R as bs ↔
      (∀ k, k ∈ keys as ↔ k ∈ keys bs) ∧ ∀ k v w, (k, v) ∈ as → (k, w) ∈ bs → R v w := by
  constructor
  · intro h
    refine ⟨h.mem_keys_iff ha, fun k v w hv hw => ?_⟩
    obtain ⟨w', hw', hvw⟩ := h.2 _ hv
    rw [(find?_eq_some_iff_mem hb).2 hw] at hw'
    exact Option.some.inj hw' ▸ hvw
  · rintro ⟨hkeys, hvalues⟩
    have hperm : (keys as).Perm (keys bs) :=
      (List.perm_ext_iff_of_nodup (nodup_keys ha) (nodup_keys hb)).2 hkeys
    refine ⟨by simpa [keys] using hperm.length_eq, fun e he => ?_⟩
    obtain ⟨⟨k, w⟩, hm, rfl⟩ := List.mem_map.1 ((hkeys e.1).1 (List.mem_map_of_mem he))
    exact ⟨w, (find?_eq_some_iff_mem hb).2 hm, hvalues _ e.2 w he hm⟩

theorem Paired.flip (ha : Distinct (· == ·) as) (hb : Distinct (· == ·) bs) (h : Paired R as bs) :
    Paired (fun w v => R v w) bs as := by
  obtain ⟨hkeys, hvalues⟩ := (paired_iff ha hb).1 h
  exact (paired_iff hb ha).2 ⟨fun k => (hkeys k).symm, fun k w v hw hv => hvalues k v w hv hw⟩

theorem Paired.refl {S : ν → ν → Prop} (ha : Distinct (· == ·) as) (h : ∀ e ∈ as, S e.2 e.2) :
    Paired S as as :=
  ⟨rfl, fun e he => ⟨e.2, (find?_eq_some_iff_mem ha).2 he, h e he⟩⟩

theorem Paired.comp {ξ : Type} {T : ω → ξ → Prop} {cs : List (κ × ξ)} (h : Paired R as bs)
    (h' : Paired T bs cs) : Paired (fun v x => ∃ w, R v w ∧ T w x) as cs := by
  refine ⟨h.1.trans h'.1, fun e he => ?_⟩
  obtain ⟨w, hw, hew⟩ := h.2 e he
  obtain ⟨k, hk, hm⟩ := mem_of_find? hw
  obtain rfl := eq_of_beq hk
  obtain ⟨x, hx, hwx⟩ := h'.2 _ hm
  exact ⟨x, hx, w, hew, hwx⟩

theorem Paired.find? (ha : Distinct (· == ·) as) (h : Paired R as bs) (k : κ) :
    Option.Rel R (find? (· == ·) k as) (Table.find? (· == ·) k bs) := by
  cases hv : Table.find? (· == ·) k as with
  | some v =>
    obtain ⟨w, hw, hvw⟩ := h.2 _ ((find?_eq_some_iff_mem ha).1 hv)
    rw [hw]
    exact .some hvw
  | none =>
    have hnone : Table.find? (· == ·) k bs = none := find?_eq_none_iff.2 fun k' hk' =>
      find?_eq_none_iff.1 hv k' ((h.mem_keys_iff ha k').2 hk')
    rw [hnone]
    exact .none

end Table

end StorageQuery
