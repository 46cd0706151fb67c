import StorageQuery.Proofs.Storage.Refusal
set_option autoImplicit false

namespace StorageQuery

/-- All faults of a tree, each once, in the order of their places. -/
structure Faults.Listed {ε : Type} (faults : Faults ε) (all : List (Place × ε)) : Prop where
  inOrder : all.Pairwise fun a b => a.1 < b.1
  mem_iff : ∀ place e, (place, e) ∈ all ↔ faults place e

namespace Faults

variable {ε α : Type}

theorem listed_nil (of : α → Faults ε) : (among of []).Listed [] :=
  ⟨.nil, fun _ _ => iff_of_false List.not_mem_nil not_among_nil⟩

/-- A place among some parts as a place among these behind one more. -/
def behind : Place → Place
  | [] => []
  | i :: place => (i + 1) :: place

theorem listed_cons {of : α → Faults ε} {part : α} {parts : List α} {first others : List (Place × ε)}
    (hf : (of part).Listed first) (ho : (among of parts).Listed others) :
    (among of (part :: parts)).Listed
      (first.map (Prod.map (0 :: ·) id) ++ others.map (Prod.map behind id)) := by
  -- no fault of the parts is at the place of the tree itself
  have hplace : ∀ fault ∈ others, ∃ i place, fault.1 = i :: place := by
    rintro ⟨place, e⟩ hm
    have hfault := (ho.mem_iff place e).1 hm
    cases place with
    | nil => exact hfault.elim
    | cons i place => exact ⟨i, place, rfl⟩
  constructor
  · refine List.pairwise_append.2 ⟨?_, ?_, ?_⟩
    · refine List.pairwise_map.2 (hf.inOrder.imp fun hlt => ?_)
      exact List.cons_lt_cons_iff.2 (.inr ⟨rfl, hlt⟩)
    · refine List.pairwise_map.2 (ho.inOrder.imp_of_mem fun {a b} ha hb hlt => ?_)
      obtain ⟨i, place, hi⟩ := hplace a ha
      obtain ⟨j, place', hj⟩ := hplace b hb
      rw [hi, hj, List.cons_lt_cons_iff] at hlt
      rw [Prod.map_fst, Prod.map_fst, hi, hj, behind, behind, List.cons_lt_cons_iff]
      rwa [Nat.add_lt_add_iff_right, Nat.add_right_cancel_iff]
    · intro a ha b hb
      obtain ⟨_, -, rfl⟩ := List.mem_map.1 ha
      obtain ⟨fault, hfault, rfl⟩ := List.mem_map.1 hb
      obtain ⟨i, place, hi⟩ := hplace fault hfault
      rw [Prod.map_fst, Prod.map_fst, hi, behind]
      exact List.cons_lt_cons_iff.2 (.inl i.succ_pos)
  · intro place e
    rw [List.mem_append, List.mem_map, List.mem_map]
    constructor
    · rintro (⟨⟨place, e⟩, hm, ⟨⟩⟩ | ⟨⟨place, e⟩, hm, ⟨⟩⟩)
      · exact among_cons_zero.2 ((hf.mem_iff place e).1 hm)
      · obtain ⟨i, place, rfl⟩ := hplace _ hm
        exact among_cons_succ.2 ((ho.mem_iff _ e).1 hm)
    · intro hfault
      match place with
      | [] => exact hfault.elim
      | 0 :: place => exact .inl ⟨(place, e), (hf.mem_iff place e).2 (among_cons_zero.1 hfault), rfl⟩
      | (i + 1) :: place =>
        exact .inr ⟨(i :: place, e), (ho.mem_iff _ e).2 (among_cons_succ.1 hfault), rfl⟩

end Faults

namespace Storage

def wides (value : Storage) : Faults Int := fun place n => value.at? place = some (.bigInt n) ∧ Number.Wide n

theorem wides_of_parts {value : Storage} (h : ∀ n, value ≠ .bigInt n) :
    value.wides = Faults.among wides value.parts := by
  funext place n
  cases place with
  | nil => simp [wides, at?, Faults.among, h]
  | cons i place =>
    rw [wides, at?, Faults.among]
    cases value.parts[i]? <;> simp [wides]

theorem listed_of_parts_eq_nil {value : Storage} (h : ∀ n, value ≠ .bigInt n) (hparts : value.parts = []) :
    ∃ all, value.wides.Listed all ∧ [] = all.map Prod.snd :=
  ⟨[], by rw [wides_of_parts h, hparts]; exact Faults.listed_nil wides, rfl⟩

theorem listed_bigInt (n : Int) :
    ∃ all, (Storage.bigInt n).wides.Listed all ∧ (Storage.bigInt n).wide = all.map Prod.snd := by
  have hmem (place : Place) (m : Int) :
      (Storage.bigInt n).wides place m ↔ place = [] ∧ m = n ∧ Number.Wide n := by
    cases place with
    | nil =>
      simp only [wides, at?, Option.some.injEq, bigInt.injEq, true_and]
      constructor
      · rintro ⟨rfl, hw⟩
        exact ⟨rfl, hw⟩
      · rintro ⟨rfl, hw⟩
        exact ⟨rfl, hw⟩
    | cons i place => simp [wides, at?, parts]
  rw [wide]
  split
  · rename_i hfits
    refine ⟨[], ⟨.nil, fun place m => iff_of_false List.not_mem_nil fun h => ?_⟩, rfl⟩
    exact Number.wide_iff.1 ((hmem place m).1 h).2.2 hfits
  · rename_i hfits
    refine ⟨[([], n)], ⟨List.pairwise_singleton .., fun place m => ?_⟩, rfl⟩
    simp [hmem, Number.wide_iff, hfits]

theorem listed_parts {α : Type} (of : α → Storage) {part : α} {parts : List α} {first others : List Int}
    (hf : ∃ all, (of part).wides.Listed all ∧ first = all.map Prod.snd)
    (ho : ∃ all, (Faults.among (fun part => (of part).wides) parts).Listed all ∧ others = all.map Prod.snd) :
    ∃ all, (Faults.among (fun part => (of part).wides) (part :: parts)).Listed all ∧
      first ++ others = all.map Prod.snd := by
  obtain ⟨all, hall, rfl⟩ := hf
  obtain ⟨more, hmore, rfl⟩ := ho
  refine ⟨_, Faults.listed_cons hall hmore, ?_⟩
  rw [List.map_append, List.map_map, List.map_map]
  rfl

mutual
/-- The wide integers of a value are listed in the order of their places, one for each place. -/
theorem listed_wide : (value : Storage) →
    ∃ all, value.wides.Listed all ∧ value.wide = all.map Prod.snd
  | .null | .bool _ | .number _ | .string _ | .bytes _ | .bigMap _ => listed_of_parts_eq_nil (by simp) rfl
  | .bigInt n => listed_bigInt n
  | .array items => by
    rw [wides_of_parts (by simp)]
    exact listed_wideItems items
  | .object fields => by
    rw [wides_of_parts (by simp), parts, Faults.among_map]
    exact listed_wideFields fields
  | .map entries => by
    rw [wides_of_parts (by simp), parts, Faults.among_map]
    exact listed_wideEntries entries
theorem listed_wideItems : (items : List Storage) →
    ∃ all, (Faults.among wides items).Listed all ∧ wideItems items = all.map Prod.snd
  | [] => ⟨[], Faults.listed_nil _, rfl⟩
  | item :: rest => listed_parts id (listed_wide item) (listed_wideItems rest)
theorem listed_wideFields : (fields : List (String × Storage)) →
    ∃ all, (Faults.among (fun field => field.2.wides) fields).Listed all ∧
      wideFields fields = all.map Prod.snd
  | [] => ⟨[], Faults.listed_nil _, rfl⟩
  | (_, value) :: rest => listed_parts Prod.snd (listed_wide value) (listed_wideFields rest)
theorem listed_wideEntries : (entries : List (Key × Storage)) →
    ∃ all, (Faults.among (fun entry => entry.2.wides) entries).Listed all ∧
      wideEntries entries = all.map Prod.snd
  | [] => ⟨[], Faults.listed_nil _, rfl⟩
  | (_, value) :: rest => listed_parts Prod.snd (listed_wide value) (listed_wideEntries rest)
end

end Storage

end StorageQuery
