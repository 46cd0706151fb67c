import Mathlib.Data.List.Nodup
import StorageQuery.Proofs.Key.Equality
set_option autoImplicit false

namespace StorageQuery.Key

theorem pairwise_sortByName {α : Type} (fields : List (String × α)) :
    (sortByName fields).Pairwise fun a b => decide (a.1 ≤ b.1) = true := by
  refine List.pairwise_mergeSort (fun a b c hab hbc => ?_) (fun a b => ?_) fields
  · rw [decide_eq_true_iff] at hab hbc ⊢
    exact String.le_trans hab hbc
  · rw [Bool.or_eq_true, decide_eq_true_iff, decide_eq_true_iff]
    exact String.le_total a.1 b.1

theorem sortByName_eq_of_perm {α : Type} {as bs : List (String × α)} (hd : (Table.keys as).Nodup)
    (h : as.Perm bs) : sortByName as = sortByName bs := by
  have hperm : (sortByName as).Perm (sortByName bs) :=
    ((List.mergeSort_perm as _).trans h).trans (List.mergeSort_perm bs _).symm
  refine List.Perm.eq_of_pairwise (fun a b hma hmb hab hba => ?_) (pairwise_sortByName as)
    (pairwise_sortByName bs) hperm
  have hname : a.1 = b.1 := String.le_antisymm (of_decide_eq_true hab) (of_decide_eq_true hba)
  have hmb' := hperm.mem_iff.2 hmb
  exact List.inj_on_of_nodup_map hd (List.mem_mergeSort.1 hma) (List.mem_mergeSort.1 hmb') hname

/-- What is made of each field and sorted by name does not tell two records apart that are the same, if it
does not tell their keys apart. -/
theorem sortByName_map_eq_of_same {α : Type} {f : Key → α} {as bs : List (String × Key)}
    (ha : (Key.composite as).WellFormed) (hb : (Key.composite bs).WellFormed)
    (h : (Key.composite as).same (.composite bs) = true)
    (hf : ∀ name a b, (name, a) ∈ as → (name, b) ∈ bs → f a = f b) :
    sortByName (as.map fun field => (field.1, f field.2)) =
      sortByName (bs.map fun field => (field.1, f field.2)) := by
  obtain ⟨hnames, -⟩ := (same_composite_iff ha hb).1 h
  have hkeys (fields : List (String × Key)) :
      Table.keys (fields.map fun field => (field.1, f field.2)) = Table.keys fields := by
    simp [Table.keys]
  have hda : (Table.keys (as.map fun field => (field.1, f field.2))).Nodup :=
    hkeys as ▸ Table.nodup_keys ha.1
  have hdb : (Table.keys (bs.map fun field => (field.1, f field.2))).Nodup :=
    hkeys bs ▸ Table.nodup_keys hb.1
  refine sortByName_eq_of_perm hda ((List.perm_ext_iff_of_nodup hda.of_map hdb.of_map).2 fun field => ?_)
  simp only [List.mem_map]
  constructor
  · rintro ⟨⟨name, a⟩, hma, rfl⟩
    obtain ⟨⟨_, b⟩, hmb, rfl⟩ := List.mem_map.1 ((hnames name).1 (List.mem_map_of_mem hma))
    exact ⟨_, hmb, by rw [hf _ a b hma hmb]⟩
  · rintro ⟨⟨name, b⟩, hmb, rfl⟩
    obtain ⟨⟨_, a⟩, hma, rfl⟩ := List.mem_map.1 ((hnames name).2 (List.mem_map_of_mem hmb))
    exact ⟨_, hma, by rw [hf _ a b hma hmb]⟩

theorem feeds_of_scalar {key : Key} (h : key.isComposite = false) :
    key.feeds = [.mark false, .text key.canonical] := by
  cases key with
  | composite fields => cases h
  | _ => rfl

theorem feedsOfFields_eq_map (fields : List (String × Key)) :
    feedsOfFields fields = fields.map fun field => (field.1, field.2.feeds) := by
  induction fields with
  | nil => rfl
  | cons field rest ih => rw [feedsOfFields, ih, List.map_cons]

mutual
theorem feeds_eq_of_same : (a b : Key) → a.WellFormed → b.WellFormed → a.same b = true →
    a.feeds = b.feeds
  | .composite as, .composite bs, ha, hb, h => by
    obtain ⟨-, hkeys⟩ := (same_composite_iff ha hb).1 h
    rw [feeds, feeds, feedsOfFields_eq_map, feedsOfFields_eq_map]
    rw [sortByName_map_eq_of_same ha hb h fun name a b hma hmb =>
      feeds_eq_of_same_of_mem as ha.2 _ hma b (wellFormedFields_iff.1 hb.2 _ hmb) (hkeys name a b hma hmb)]
  | .composite _, .bool _, _, _, h | .composite _, .number _, _, _, h
  | .composite _, .string _, _, _, h => by simp [same] at h
  | .bool _, b, _, _, h | .number _, b, _, _, h | .string _, b, _, _, h => by
    rw [feeds_of_scalar rfl, feeds_of_scalar (isComposite_eq_of_same h).symm, canonical_eq_of_same_scalar rfl h]
theorem feeds_eq_of_same_of_mem : (as : List (String × Key)) → WellFormedFields as → ∀ field ∈ as,
    ∀ b : Key, b.WellFormed → field.2.same b = true → field.2.feeds = b.feeds
  | [], _, _, hm, _, _, _ => nomatch hm
  | (_, a) :: rest, hw, field, hm, b, hb, h => by
    rcases List.mem_cons.1 hm with rfl | hm
    · exact feeds_eq_of_same a b hw.1 hb h
    · exact feeds_eq_of_same_of_mem rest hw.2 field hm b hb h
end

/-- Equality of keys is an equivalence that never takes a scalar for a record and compares records name by
name. Keys that are the same feed a hash alike, so it changes nothing to compare hashes first. -/
theorem same_lawful (a b c : Key) (ha : a.WellFormed) (hb : b.WellFormed) :
    a.same a = true ∧
    (a.same b = true → b.same a = true) ∧
    (a.same b = true → b.same c = true → a.same c = true) ∧
    (a.isComposite = false → b.isComposite = true → a.same b = false ∧ b.same a = false) ∧
    (∀ as bs, a = .composite as → b = .composite bs →
      (a.same b = true ↔
        (∀ name, name ∈ Table.keys as ↔ name ∈ Table.keys bs) ∧
          ∀ name k l, (name, k) ∈ as → (name, l) ∈ bs → k.same l = true)) ∧
    (a.same b = true → a.feeds = b.feeds) ∧
    (∀ digest : List Feed → UInt64, (digest a.feeds == digest b.feeds && a.same b) = a.same b) := by
  refine ⟨same_refl a ha, same_symm a b ha hb, same_trans a b c, same_composite_of_scalar, ?_,
    feeds_eq_of_same a b ha hb, fun digest => ?_⟩
  · rintro as bs rfl rfl
    exact same_composite_iff ha hb
  · cases h : a.same b with
    | false => exact Bool.and_false _
    | true => simp [feeds_eq_of_same a b ha hb h]

/-- Records in three orders, with scalars of several kinds behind one text. -/
theorem same_lawful_nested :
    let one : Number := .integer 1 (by decide)
    let a : Key := .composite [("x", .number one),
      ("y", .composite [("p", .bool true), ("q", .string "s")])]
    let b : Key := .composite [("y", .composite [("q", .string "s"), ("p", .string "true")]),
      ("x", .string "1")]
    let c : Key := .composite [("x", .string "1"),
      ("y", .composite [("p", .string "true"), ("q", .string "s")])]
    a.WellFormed ∧ b.WellFormed ∧ a.same b = true ∧ b.same c = true ∧
      b.same a = true ∧ a.same c = true ∧ a.feeds = b.feeds := by
  intro one a b c
  have ha : a.WellFormed := by
    simp [a, WellFormed, WellFormedFields, Table.Distinct, Table.keys]
  have hb : b.WellFormed := by
    simp [b, WellFormed, WellFormedFields, Table.Distinct, Table.keys]
  have hab : a.same b = true := by decide +kernel
  have hbc : b.same c = true := by decide +kernel
  obtain ⟨-, hsymm, htrans, -, -, hfeeds, -⟩ := same_lawful a b c ha hb
  exact ⟨ha, hb, hab, hbc, hsymm hab, htrans hab hbc, hfeeds hab⟩

end StorageQuery.Key
