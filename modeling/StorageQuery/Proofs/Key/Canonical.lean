import StorageQuery.Proofs.Json.RoundTrip
import StorageQuery.Proofs.Json.Writing
import StorageQuery.Proofs.Key.Feeds
/-!
Canonical texts of keys. Keys that are the same have the same canonical text. Scalars, and records of scalars,
are told apart by it, because a text spells no two documents. Records within records are not: the text of a
record may stand in a field as a text.
-/

set_option autoImplicit false

namespace StorageQuery

theorem Json.eq_of_text_eq {json json' : Json} (hi : json.Integral) (hi' : json'.Integral)
    (h : json.text = json'.text) : json = json' := by
  have hspells : Spells json.text json' := h ▸ json'.spells_text
  exact json.spells_text.unique hspells hi hi'

namespace Key

/-- A scalar, or a record of scalars. -/
def IsFlat : Key → Prop
  | .composite fields => ∀ field ∈ fields, field.2.isComposite = false
  | _ => True

theorem canonicalFields_eq_map (fields : List (String × Key)) :
    canonicalFields fields = fields.map fun field => (field.1, Json.string field.2.canonical) := by
  induction fields with
  | nil => rfl
  | cons field rest ih => rw [canonicalFields, ih, List.map_cons]

mutual
theorem canonical_eq_of_same : (a b : Key) → a.WellFormed → b.WellFormed → a.same b = true →
    a.canonical = b.canonical
  | .composite as, .composite bs, ha, hb, h => by
    obtain ⟨-, hkeys⟩ := (same_composite_iff ha hb).1 h
    have htext : ∀ name a b, (name, a) ∈ as → (name, b) ∈ bs →
        Json.string a.canonical = Json.string b.canonical := fun name a b hma hmb =>
      congrArg Json.string (canonical_eq_of_same_of_mem as ha.2 _ hma b (wellFormedFields_iff.1 hb.2 _ hmb)
        (hkeys name a b hma hmb))
    rw [canonical, canonical, canonicalFields_eq_map, canonicalFields_eq_map,
      sortByName_map_eq_of_same (f := fun key => Json.string key.canonical) ha hb h htext]
  | .composite _, .bool _, _, _, h | .composite _, .number _, _, _, h
  | .composite _, .string _, _, _, h => by simp [same] at h
  | .bool _, _, _, _, h | .number _, _, _, _, h | .string _, _, _, _, h => canonical_eq_of_same_scalar rfl h
theorem canonical_eq_of_same_of_mem : (as : List (String × Key)) → WellFormedFields as → ∀ field ∈ as,
    ∀ b : Key, b.WellFormed → field.2.same b = true → field.2.canonical = b.canonical
  | [], _, _, hm, _, _, _ => nomatch hm
  | (_, a) :: rest, hw, field, hm, b, hb, h => by
    rcases List.mem_cons.1 hm with rfl | hm
    · exact canonical_eq_of_same a b hw.1 hb h
    · exact canonical_eq_of_same_of_mem rest hw.2 field hm b hb h
end

theorem same_of_canonical_eq {a b : Key} (ha : a.isComposite = false) (hb : b.isComposite = false)
    (h : a.canonical = b.canonical) : a.same b = true := by
  rw [same_of_scalar ha, hb, h]
  exact beq_self_eq_true b.canonical

/-- The document whose text is canonical for a record has no numbers at all. -/
theorem integral_sorted (fields : List (String × Key)) :
    (Json.object (sortByName (canonicalFields fields))).Integral := by
  rw [Json.integral_object, canonicalFields_eq_map]
  intro member hmember
  obtain ⟨field, -, rfl⟩ := List.mem_map.1 (List.mem_mergeSort.1 hmember)
  exact Json.integral_string field.2.canonical

/-- Records with one canonical text have the same fields, as far as texts of fields go. -/
theorem canonicalFields_perm_of_canonical_eq {as bs : List (String × Key)}
    (h : (composite as).canonical = (composite bs).canonical) :
    (canonicalFields as).Perm (canonicalFields bs) := by
  have hsorted : sortByName (canonicalFields as) = sortByName (canonicalFields bs) := by
    rw [canonical, canonical] at h
    exact Json.object.inj (Json.eq_of_text_eq (integral_sorted as) (integral_sorted bs) h)
  calc
    (canonicalFields as).Perm (sortByName (canonicalFields as)) := (List.mergeSort_perm _ _).symm
    _ = sortByName (canonicalFields bs) := hsorted
    List.Perm _ (canonicalFields bs) := List.mergeSort_perm _ _

theorem keys_canonicalFields (fields : List (String × Key)) :
    Table.keys (canonicalFields fields) = Table.keys fields := by
  simp [canonicalFields_eq_map, Table.keys]

theorem same_composite_of_canonical_eq {as bs : List (String × Key)} (ha : (composite as).WellFormed)
    (hb : (composite bs).WellFormed) (hfa : (composite as).IsFlat) (hfb : (composite bs).IsFlat)
    (h : (composite as).canonical = (composite bs).canonical) :
    (composite as).same (composite bs) = true := by
  have hperm := canonicalFields_perm_of_canonical_eq h
  refine (same_composite_iff ha hb).2 ⟨fun name => ?_, fun name a b hma hmb => ?_⟩
  · rw [← keys_canonicalFields as, ← keys_canonicalFields bs]
    exact (hperm.map Prod.fst).mem_iff
  · have hmem : (name, Json.string a.canonical) ∈ canonicalFields bs := by
      rw [← hperm.mem_iff, canonicalFields_eq_map]
      exact List.mem_map_of_mem hma
    rw [canonicalFields_eq_map] at hmem
    obtain ⟨⟨_, b'⟩, hmb', heq⟩ := List.mem_map.1 hmem
    obtain ⟨rfl, htext⟩ := Prod.mk.inj heq
    obtain rfl : b' = b := Option.some.inj
      (((Table.find?_eq_some_iff_mem hb.1).2 hmb').symm.trans ((Table.find?_eq_some_iff_mem hb.1).2 hmb))
    exact same_of_canonical_eq (hfa _ hma) (hfb _ hmb) (Json.string.inj htext).symm

/-- Keys that are the same have one canonical text, whatever the order of their fields and the kinds of their
scalars. Two scalars with one canonical text are the same key, and so are two records of scalars. -/
theorem canonical_tells_apart (a b : Key) (ha : a.WellFormed) (hb : b.WellFormed) :
    (a.same b = true → a.canonical = b.canonical) ∧
    (a.isComposite = b.isComposite → a.IsFlat → b.IsFlat → a.canonical = b.canonical → a.same b = true) := by
  refine ⟨canonical_eq_of_same a b ha hb, fun hkind hfa hfb h => ?_⟩
  cases a with
  | composite as =>
    cases b with
    | composite bs => exact same_composite_of_canonical_eq ha hb hfa hfb h
    | _ => cases hkind
  | _ => exact same_of_canonical_eq rfl hkind.symm h

/-- Names and texts with quotes and backslashes, a text that looks like a document, and scalars of two kinds. -/
theorem canonical_tells_apart_escapes :
    let a : Key := .composite [("\"q\\", .string "true"), ("n", .string "\x7b\"x\":1\x7d\n"), ("", .string "1")]
    let b : Key := .composite [("", .number (.integer 1 (by decide))), ("\"q\\", .bool true),
      ("n", .string "\x7b\"x\":1\x7d\n")]
    a.WellFormed ∧ b.WellFormed ∧ a.IsFlat ∧ b.IsFlat ∧ a.same b = true ∧ a.canonical = b.canonical ∧
      b.same a = true := by
  intro a b
  have ha : a.WellFormed := by
    simp [a, WellFormed, WellFormedFields, Table.Distinct, Table.keys]
  have hb : b.WellFormed := by
    simp [b, WellFormed, WellFormedFields, Table.Distinct, Table.keys]
  have hfa : a.IsFlat := by simp [a, IsFlat, isComposite]
  have hfb : b.IsFlat := by simp [b, IsFlat, isComposite]
  have hsame : a.same b = true := by decide +kernel
  have htext : a.canonical = b.canonical := (canonical_tells_apart a b ha hb).1 hsame
  exact ⟨ha, hb, hfa, hfb, hsame, htext, (canonical_tells_apart b a hb ha).2 rfl hfb hfa htext.symm⟩

/-- Records within records are not told apart. -/
example :
    let nested : Key := .composite [("a", .composite [("b", .string "c")])]
    let flat : Key := .composite [("a", .string "\x7b\"b\":\"c\"\x7d")]
    nested.canonical = flat.canonical ∧ nested.same flat = false := by
  cbv

end Key

end StorageQuery
