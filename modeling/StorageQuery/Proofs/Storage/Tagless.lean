import StorageQuery.Proofs.Json.Within
import StorageQuery.Proofs.Storage.Document
set_option autoImplicit false

namespace StorageQuery

namespace Json

/-- Nothing in it, at any depth, is an object that a tag claims. -/
def Tagless (json : Json) : Prop :=
  ∀ part : Json, part.Within json → ∀ (tag : Tag) (body : Json), part ≠ tag.wrap body

theorem Tagless.of_scalar {json : Json} (hparts : json.parts = []) (hobject : ∀ members, json ≠ .object members) :
    json.Tagless := by
  rw [Tagless, forall_within_iff, hparts]
  exact ⟨fun tag body => hobject _, List.forall_mem_nil _⟩

theorem tagless_array_iff {items : List Json} :
    (Json.array items).Tagless ↔ ∀ item ∈ items, item.Tagless := by
  rw [Tagless, forall_within_iff]
  exact and_iff_right nofun

theorem tagless_object_iff {members : List (String × Json)} :
    (Json.object members).Tagless ↔
      (∀ (tag : Tag) (body : Json), members ≠ [(tag.name, body)]) ∧ ∀ member ∈ members, member.2.Tagless := by
  rw [Tagless, forall_within_iff]
  simp only [Tag.wrap, ne_eq, Json.object.injEq, parts, List.forall_mem_map]
  exact Iff.rfl

end Json

namespace Storage

mutual
def ofPlain : Json → Storage
  | .null => .null
  | .bool b => .bool b
  | .number n => .number n
  | .string s => .string s
  | .array items => .array (ofPlainItems items)
  | .object members => .object (ofPlainMembers members)
def ofPlainItems : List Json → List Storage
  | [] => []
  | item :: rest => ofPlain item :: ofPlainItems rest
def ofPlainMembers : List (String × Json) → List (String × Storage)
  | [] => []
  | (name, member) :: rest => (name, ofPlain member) :: ofPlainMembers rest
end

mutual
theorem toPlain_ofPlain (policy : WidePolicy) : (json : Json) → (ofPlain json).toPlain policy = .ok json
  | .null | .bool _ | .number _ | .string _ => rfl
  | .array items => by
    rw [ofPlain, toPlain, plainItems_ofPlainItems policy items]
    rfl
  | .object members => by
    rw [ofPlain, toPlain, plainFields_ofPlainMembers policy members]
    rfl
theorem plainItems_ofPlainItems (policy : WidePolicy) : (items : List Json) →
    plainItems policy (ofPlainItems items) = .ok items
  | [] => rfl
  | item :: rest => by
    rw [ofPlainItems, plainItems, toPlain_ofPlain policy item, plainItems_ofPlainItems policy rest]
    rfl
theorem plainFields_ofPlainMembers (policy : WidePolicy) : (members : List (String × Json)) →
    plainFields policy (ofPlainMembers members) = .ok members
  | [] => rfl
  | (name, member) :: rest => by
    rw [ofPlainMembers, plainFields, toPlain_ofPlain policy member, plainFields_ofPlainMembers policy rest]
    rfl
end

variable {resolver : Option Resolver}

mutual
theorem ofDocument_of_tagless : (document : Json) → document.Tagless →
    ofDocument resolver document = .ok (ofPlain document)
  | .null, _ | .bool _, _ | .number _, _ | .string _, _ => rfl
  | .array items, h => by
    rw [ofDocument, ofItems_of_tagless items (Json.tagless_array_iff.1 h)]
    rfl
  | .object members, h => by
    obtain ⟨huntagged, hmembers⟩ := Json.tagless_object_iff.1 h
    rw [ofDocument_object huntagged, ofMembers_of_tagless members hmembers]
    rfl
theorem ofItems_of_tagless : (items : List Json) → (∀ item ∈ items, item.Tagless) →
    ofItems resolver items = .ok (ofPlainItems items)
  | [], _ => rfl
  | item :: rest, h => by
    obtain ⟨hitem, hrest⟩ := List.forall_mem_cons.1 h
    exact ofItems_cons_eq_ok_iff.2
      ⟨ofPlain item, ofPlainItems rest, ofDocument_of_tagless item hitem, ofItems_of_tagless rest hrest, rfl⟩
theorem ofMembers_of_tagless : (members : List (String × Json)) → (∀ member ∈ members, member.2.Tagless) →
    ofMembers resolver members = .ok (ofPlainMembers members)
  | [], _ => rfl
  | (name, member) :: rest, h => by
    obtain ⟨hmember, hrest⟩ := List.forall_mem_cons.1 h
    exact ofMembers_cons_eq_ok_iff.2
      ⟨ofPlain member, ofPlainMembers rest, ofDocument_of_tagless member hmember,
        ofMembers_of_tagless rest hrest, rfl⟩
end

/-- A document in which no tag claims an object passes through unchanged, whatever the policy is, and no resolver
is asked for. -/
theorem tagless_unchanged (resolver : Option Resolver) (document : Json)
    (h : ∀ part : Json, part.Within document → ∀ (tag : Tag) (body : Json), part ≠ tag.wrap body) :
    ∃ value, ofDocument resolver document = .ok value ∧ ∀ policy, value.toPlain policy = .ok document :=
  ⟨ofPlain document, ofDocument_of_tagless document h, fun policy => toPlain_ofPlain policy document⟩

/-- Tags beside other members, as texts, and under names that are nearly theirs. -/
theorem tagless_unchanged_near_tags :
    let document : Json := .object
      [(Tag.int.name, .string Tag.map.name),
        ("items", .array [.object [(Tag.bytes.name, .null), (Tag.bigMap.name, .object [])],
          .object [("$Int", .number (.integer 0 (by decide)))], .object [], .bool false]),
        ("entry", .object [("value", .array [.string "12x"])])]
    (∀ part : Json, part.Within document → ∀ (tag : Tag) (body : Json), part ≠ tag.wrap body) ∧
      ∃ value, ofDocument none document = .ok value ∧ ∀ policy, value.toPlain policy = .ok document := by
  intro document
  have hnear : ∀ tag : Tag, "$Int" ≠ tag.name := fun tag => by cases tag <;> decide
  have hvalue : ∀ tag : Tag, "value" ≠ tag.name := fun tag => by cases tag <;> decide
  have hscalars : (Json.string Tag.map.name).Tagless ∧ Json.null.Tagless ∧
      (Json.number (.integer 0 (by decide))).Tagless ∧ (Json.bool false).Tagless ∧ (Json.string "12x").Tagless :=
    ⟨.of_scalar rfl nofun, .of_scalar rfl nofun, .of_scalar rfl nofun, .of_scalar rfl nofun, .of_scalar rfl nofun⟩
  have htagless : document.Tagless := by
    simp [document, Json.tagless_object_iff, Json.tagless_array_iff, hscalars, hnear, hvalue]
  exact ⟨htagless, tagless_unchanged none document htagless⟩

end Storage

end StorageQuery
