import StorageQuery.Key
import StorageQuery.Proofs.Json.Within
set_option autoImplicit false

namespace StorageQuery

/-- Nothing in it, at any depth, is null or a list. -/
def Json.IsKey (json : Json) : Prop :=
  ∀ part : Json, part.Within json → part ≠ .null ∧ ∀ items, part ≠ .array items

theorem Json.isKey_object_iff {members : List (String × Json)} :
    (Json.object members).IsKey ↔ ∀ member ∈ members, member.2.IsKey := by
  rw [IsKey, forall_within_iff]
  constructor
  · rintro ⟨-, hparts⟩ member hmember
    exact hparts member.2 (List.mem_map_of_mem hmember)
  · intro h
    refine ⟨⟨nofun, nofun⟩, fun part hpart => ?_⟩
    obtain ⟨member, hmember, rfl⟩ := List.mem_map.1 hpart
    exact h member hmember

theorem Json.isKey_of_parts_eq_nil {json : Json} (h : json.parts = []) (hnull : json ≠ .null)
    (harray : ∀ items, json ≠ .array items) : json.IsKey := by
  rw [IsKey, forall_within_iff, h]
  exact ⟨⟨hnull, harray⟩, List.forall_mem_nil _⟩

namespace Key

mutual
theorem exists_ofJson?_iff : (json : Json) → ((∃ key, ofJson? json = some key) ↔ json.IsKey)
  | .null => iff_of_false nofun fun h => (h .null (.self _)).1 rfl
  | .bool b => iff_of_true ⟨_, rfl⟩ (Json.isKey_of_parts_eq_nil rfl nofun nofun)
  | .number n => iff_of_true ⟨_, rfl⟩ (Json.isKey_of_parts_eq_nil rfl nofun nofun)
  | .string s => iff_of_true ⟨_, rfl⟩ (Json.isKey_of_parts_eq_nil rfl nofun nofun)
  | .array items => iff_of_false nofun fun h => (h (.array items) (.self _)).2 items rfl
  | .object members => by
    rw [Json.isKey_object_iff, ← exists_ofMembers?_iff members, ofJson?]
    cases ofMembers? members <;> simp
theorem exists_ofMembers?_iff : (members : List (String × Json)) →
    ((∃ fields, ofMembers? members = some fields) ↔ ∀ member ∈ members, member.2.IsKey)
  | [] => by simp [ofMembers?]
  | (name, json) :: rest => by
    rw [List.forall_mem_cons, ← exists_ofJson?_iff json, ← exists_ofMembers?_iff rest, ofMembers?]
    cases ofJson? json <;> cases ofMembers? rest <;> simp
end

theorem wellFormedFields_iff {fields : List (String × Key)} :
    WellFormedFields fields ↔ ∀ field ∈ fields, field.2.WellFormed := by
  induction fields with
  | nil => simp [WellFormedFields]
  | cons field rest ih => obtain ⟨name, key⟩ := field; simp [WellFormedFields, ih]

theorem wellFormed_ofFields {fields : List (String × Key)} (h : WellFormedFields fields) :
    (ofFields fields).WellFormed := by
  refine ⟨Table.distinct_ofList _ fields, wellFormedFields_iff.2 fun field hfield => ?_⟩
  exact (Table.forall_mem_ofList (P := fun _ => True)
    (fun field hf => ⟨trivial, wellFormedFields_iff.1 h field hf⟩) field hfield).2

theorem ofMembers?_cons_eq_some_iff {name : String} {json : Json} {rest : List (String × Json)}
    {fields : List (String × Key)} :
    ofMembers? ((name, json) :: rest) = some fields ↔
      ∃ key others, ofJson? json = some key ∧ ofMembers? rest = some others ∧
        fields = (name, key) :: others := by
  rw [ofMembers?]
  cases ofJson? json <;> cases ofMembers? rest <;> simp [eq_comm]

mutual
theorem wellFormed_of_ofJson? : (json : Json) → {key : Key} → ofJson? json = some key → key.WellFormed
  | .null, _, h | .array _, _, h => nomatch h
  | .bool _, _, h | .number _, _, h | .string _, _, h => by cases h; trivial
  | .object members, _, h => by
    obtain ⟨fields, hf, rfl⟩ := Option.map_eq_some_iff.1 h
    exact wellFormed_ofFields (wellFormedFields_of_ofMembers? members hf)
theorem wellFormedFields_of_ofMembers? : (members : List (String × Json)) →
    {fields : List (String × Key)} → ofMembers? members = some fields → WellFormedFields fields
  | [], _, h => by cases h; trivial
  | (_, json) :: rest, _, h => by
    obtain ⟨key, others, hk, ho, rfl⟩ := ofMembers?_cons_eq_some_iff.1 h
    exact ⟨wellFormed_of_ofJson? json hk, wellFormedFields_of_ofMembers? rest ho⟩
end

mutual
theorem ofJson?_toJson : (key : Key) → key.WellFormed → ofJson? key.toJson = some key
  | .bool _, _ | .number _, _ | .string _, _ => rfl
  | .composite fields, h => by
    rw [toJson, ofJson?, ofMembers?_toMembers fields h.2, Option.map_some, Table.ofList_of_distinct h.1]
theorem ofMembers?_toMembers : (fields : List (String × Key)) → WellFormedFields fields →
    ofMembers? (toMembers fields) = some fields
  | [], _ => rfl
  | (_, key) :: rest, h => by
    rw [toMembers, ofMembers?, ofJson?_toJson key h.1, ofMembers?_toMembers rest h.2]
end

theorem keys_of_ofMembers? {members : List (String × Json)} {fields : List (String × Key)}
    (h : ofMembers? members = some fields) : Table.keys fields = Table.keys members := by
  induction members generalizing fields with
  | nil => cases h; rfl
  | cons member rest ih =>
    obtain ⟨key, others, -, ho, rfl⟩ := ofMembers?_cons_eq_some_iff.1 h
    simpa [Table.keys] using ih ho

mutual
theorem toJson_of_ofJson? : (json : Json) → {key : Key} → json.Collapsed → ofJson? json = some key →
    key.toJson = json
  | .null, _, _, h | .array _, _, _, h => nomatch h
  | .bool _, _, _, h | .number _, _, _, h | .string _, _, _, h => by cases h; rfl
  | .object members, _, hc, h => by
    obtain ⟨fields, hf, rfl⟩ := Option.map_eq_some_iff.1 h
    have hdistinct : Table.Distinct (· == ·) fields := by
      rw [Table.Distinct, keys_of_ofMembers? hf]
      exact hc.1
    rw [Table.ofList_of_distinct hdistinct, toJson, toMembers_of_ofMembers? members hc.2 hf]
theorem toMembers_of_ofMembers? : (members : List (String × Json)) → {fields : List (String × Key)} →
    Json.CollapsedMembers members → ofMembers? members = some fields → toMembers fields = members
  | [], _, _, h => by cases h; rfl
  | (_, json) :: rest, _, hc, h => by
    obtain ⟨key, others, hk, ho, rfl⟩ := ofMembers?_cons_eq_some_iff.1 h
    rw [toMembers, toJson_of_ofJson? json hc.1 hk, toMembers_of_ofMembers? rest hc.2 ho]
end

theorem keys_toMembers (fields : List (String × Key)) :
    Table.keys (toMembers fields) = Table.keys fields := by
  induction fields with
  | nil => rfl
  | cons field rest ih => simpa [toMembers, Table.keys] using ih

mutual
theorem wellFormed_of_collapsed : (key : Key) → key.toJson.Collapsed → key.WellFormed
  | .bool _, _ | .number _, _ | .string _, _ => trivial
  | .composite fields, h => ⟨by
      rw [Table.Distinct, ← keys_toMembers]
      exact h.1, wellFormedFields_of_collapsed fields h.2⟩
theorem wellFormedFields_of_collapsed : (fields : List (String × Key)) →
    Json.CollapsedMembers (toMembers fields) → WellFormedFields fields
  | [], _ => trivial
  | (_, key) :: rest, h => ⟨wellFormed_of_collapsed key h.1, wellFormedFields_of_collapsed rest h.2⟩
end

theorem ofJson?_eq_some_iff {json : Json} {key : Key} (h : json.Collapsed) :
    ofJson? json = some key ↔ key.toJson = json := by
  constructor
  · exact toJson_of_ofJson? json h
  · rintro rfl
    exact ofJson?_toJson key (wellFormed_of_collapsed key h)

end Key

end StorageQuery
