import StorageQuery.Proofs.Storage.Violation
import StorageQuery.Proofs.Text.Hex
set_option autoImplicit false

namespace StorageQuery

namespace Tag

variable (resolver : Option Resolver)

/-- What a tag asks of its body. -/
def Admits : Tag → Json → Prop
  | .map, body => ∃ items, body = .array items ∧ ∀ item ∈ items, ∃ members key, item = .object members ∧
      Table.find? (· == ·) "key" members = some key ∧ key.IsKey
  | .bigMap, body => ∃ pointer resolve found, body.Names pointer ∧ resolver = some resolve ∧
      resolve pointer = .ok found
  | .int, body => ∃ text n, body.HasText text ∧ Decimal.readInt text.toList = .ok n
  | .bytes, body => ∃ text, body = .string text ∧ text.toList.length % 2 = 0 ∧
      ∀ c ∈ text.toList, Hex.IsDigit c

variable {resolver}

theorem admits_map_iff {body : Json} :
    Tag.map.Admits resolver body ↔ ∀ place e, ¬ Violated resolver .map body place e := by
  constructor
  · rintro ⟨items, rfl, hitems⟩ place e h
    cases h with
    | notList other => exact other items rfl
    | entry found fault =>
      obtain ⟨members, key, rfl, hkey, hisKey⟩ := hitems _ (List.mem_of_getElem? found)
      cases fault with
      | shape other => exact other members rfl
      | key unusable => exact unusable key hkey hisKey
  · intro h
    by_cases hlist : ∃ items, body = .array items
    · obtain ⟨items, rfl⟩ := hlist
      refine ⟨items, rfl, fun item hitem => ?_⟩
      obtain ⟨i, hi⟩ := List.mem_iff_getElem?.1 hitem
      cases item with
      | object members =>
        by_cases hkey : ∃ key, Table.find? (· == ·) "key" members = some key ∧ key.IsKey
        · obtain ⟨key, hkey⟩ := hkey
          exact ⟨members, key, rfl, hkey⟩
        · exact absurd (.entry hi (.key fun key found hisKey => hkey ⟨key, found, hisKey⟩)) (h _ _)
      | _ => exact absurd (.entry hi (.shape nofun)) (h _ _)
    · exact absurd (.notList fun items heq => hlist ⟨items, heq⟩) (h _ _)

theorem admits_int_iff {body : Json} :
    Tag.int.Admits resolver body ↔ ∃ value, Storage.ofInt body = .ok value := by
  constructor
  · rintro ⟨text, n, htext, hread⟩
    rw [Storage.ofInt_of_hasText htext, hread]
    exact ⟨_, rfl⟩
  · rintro ⟨value, h⟩
    rcases body.hasText_or with ⟨text, htext⟩ | hother
    · rw [Storage.ofInt_of_hasText htext] at h
      cases hread : Decimal.readInt text.toList with
      | ok n => exact ⟨text, n, htext, hread⟩
      | error fault =>
        rw [hread] at h
        cases h
    · rw [Storage.ofInt_of_not_hasText hother] at h
      cases h

theorem admits_bytes_iff {body : Json} :
    Tag.bytes.Admits resolver body ↔ ∃ value, Storage.ofBytes body = .ok value := by
  cases body with
  | string text =>
    simp only [Admits, Json.string.injEq, exists_eq_left', ← Hex.exists_readBytes_iff, Storage.ofBytes]
    cases Hex.readBytes (Text.utf8 text.toList) with
    | ok bytes => simp
    | error fault => exact iff_of_false nofun nofun
  | _ => exact iff_of_false nofun nofun

theorem admits_bigMap_iff {body : Json} :
    Tag.bigMap.Admits resolver body ↔ ∃ value, Storage.ofPointer resolver body = .ok value := by
  constructor
  · rintro ⟨pointer, resolve, found, hnames, hresolver, hresolve⟩
    obtain ⟨size, hread⟩ := Storage.readPointer_of_names hnames
    exact ⟨_, Storage.ofPointer_eq_ok_iff.2 ⟨_, resolve, found, hread, hresolver, hresolve, rfl⟩⟩
  · rintro ⟨value, h⟩
    obtain ⟨handle, resolve, found, hread, hresolver, hresolve, -⟩ := Storage.ofPointer_eq_ok_iff.1 h
    exact ⟨handle.pointer, resolve, found, Storage.names_of_readPointer hread, hresolver, hresolve⟩

theorem admits_iff (tag : Tag) (body : Json) :
    tag.Admits resolver body ↔ ∀ place e, ¬ Violated resolver tag body place e := by
  cases tag with
  | map => exact admits_map_iff
  | bigMap =>
    rw [violated_bigMap, admits_bigMap_iff]
    exact (Faults.stop_reported _).isOk_iff
  | int =>
    rw [violated_int, admits_int_iff]
    exact (Faults.stop_reported _).isOk_iff
  | bytes =>
    rw [violated_bytes, admits_bytes_iff]
    exact (Faults.stop_reported _).isOk_iff

end Tag

/-! Reading a document is ended by the first of its violations. -/

namespace Storage

variable {resolver : Option Resolver}

theorem stop_object {members : List (String × Json)}
    (hmembers : (Faults.among (fun member => member.2.violations resolver) members).Stop
      (ofMembers resolver members))
    (hmap : ∀ member ∈ members, ((Tag.map.wrap member.2).violations resolver).Stop
      (ofMapBody resolver member.2)) :
    ((Json.object members).violations resolver).Stop (ofDocument resolver (.object members)) := by
  by_cases htag : ∃ (tag : Tag) (body : Json), members = [(tag.name, body)]
  · obtain ⟨tag, body, rfl⟩ := htag
    change ((tag.wrap body).violations resolver).Stop (ofDocument resolver (tag.wrap body))
    rw [ofDocument_wrap]
    cases tag with
    | map => exact (hmap _ List.mem_cons_self).map ofEntries
    | bigMap =>
      rw [Tag.violations_wrap .bigMap nofun, Tag.violated_bigMap]
      exact Faults.stop_reported _
    | int =>
      rw [Tag.violations_wrap .int nofun, Tag.violated_int]
      exact Faults.stop_reported _
    | bytes =>
      rw [Tag.violations_wrap .bytes nofun, Tag.violated_bytes]
      exact Faults.stop_reported _
  · have huntagged : Json.Untagged members := fun tag body hm => htag ⟨tag, body, hm⟩
    rw [ofDocument_object huntagged, Json.violations_object huntagged]
    exact hmembers.map Storage.object

theorem stop_notList {body : Json} (h : ∀ items, body ≠ .array items) :
    ((Tag.map.wrap body).violations resolver).Stop
      (.error (.snapshot .mapNotList) : Except StorageError (List (Key × Storage))) := by
  rw [Tag.violations_notList h]
  exact Faults.stop_alone fun e => ⟨fun he => congrArg Except.error he.symm, fun he => (Except.error.inj he).symm⟩

mutual
theorem stop_ofDocument : (document : Json) →
    (document.violations resolver).Stop (ofDocument resolver document)
  | .null | .bool _ | .number _ | .string _ => Json.not_violations nofun nofun
  | .array items => by
    rw [Json.violations_array]
    exact (stop_ofItems items).map Storage.array
  | .object members => stop_object (stop_ofMembers members) (stop_ofMapBody_of_mem members)
theorem stop_ofItems : (items : List Json) →
    (Faults.among (Json.violations resolver) items).Stop (ofItems resolver items)
  | [] => Faults.stop_nil _
  | item :: rest => Faults.stop_cons (· :: ·) (stop_ofDocument item) (stop_ofItems rest)
theorem stop_ofMembers : (members : List (String × Json)) →
    (Faults.among (fun member => member.2.violations resolver) members).Stop (ofMembers resolver members)
  | [] => Faults.stop_nil _
  | (name, member) :: rest =>
    Faults.stop_cons (fun value fields => (name, value) :: fields) (stop_ofDocument member)
      (stop_ofMembers rest)
theorem stop_ofMapBody_of_mem : (members : List (String × Json)) → ∀ member ∈ members,
    ((Tag.map.wrap member.2).violations resolver).Stop (ofMapBody resolver member.2)
  | [], _, hm => nomatch hm
  | (name, body) :: rest, member, hm => by
    rcases List.mem_cons.1 hm with rfl | hm
    · exact stop_ofMapBody body
    · exact stop_ofMapBody_of_mem rest member hm
theorem stop_ofMapBody : (body : Json) →
    ((Tag.map.wrap body).violations resolver).Stop (ofMapBody resolver body)
  | .array items => by
    rw [Tag.violations_map]
    exact stop_entriesOf items
  | .null | .bool _ | .number _ | .string _ | .object _ => by
    refine stop_notList ?_
    nofun
theorem stop_entriesOf : (items : List Json) →
    (Faults.among (Json.entryViolations resolver) items).Stop (entriesOf resolver items)
  | [] => Faults.stop_nil _
  | item :: rest => Faults.stop_cons (· :: ·) (stop_entryOf item) (stop_entriesOf rest)
theorem stop_entryOf : (item : Json) → (item.entryViolations resolver).Stop (entryOf resolver item)
  | .object members => Faults.stop_above Prod.mk (fun _ => entryFault_object_iff) (stop_entryValue members)
  | .null | .bool _ | .number _ | .string _ | .array _ =>
    ⟨[], Faults.first_above_nil.2 ⟨.shape nofun, fun _ h => by cases h; rfl⟩⟩
theorem stop_entryValue : (members : List (String × Json)) →
    (Faults.among (Json.violations resolver) (Table.find? (· == ·) "value" members).toList).Stop
      (entryValue resolver members)
  | [] => Faults.stop_nil _
  | (name, value) :: rest => by
    rw [entryValue, Table.find?_cons]
    cases name == "value" with
    | true => exact Faults.stop_single (stop_ofDocument value)
    | false => exact stop_entryValue rest
end

end Storage

namespace Json

/-- The documents are the same up to the place, with what stands there, and may differ in what comes after it.
An object that no tag claims stays one: a tag could claim its first member if the others were left out. -/
inductive SameUpTo : Place → Json → Json → Prop where
  | self (document : Json) : SameUpTo [] document document
  | item {before after after' : List Json} {item item' : Json} {place : Place}
    (same : SameUpTo place item item') :
    SameUpTo (before.length :: place) (.array (before ++ item :: after)) (.array (before ++ item' :: after'))
  | member {before after after' : List (String × Json)} {name : String} {value value' : Json} {place : Place}
    (untagged : Untagged (before ++ (name, value) :: after))
    (untagged' : Untagged (before ++ (name, value') :: after')) (same : SameUpTo place value value') :
    SameUpTo (before.length :: place) (.object (before ++ (name, value) :: after))
      (.object (before ++ (name, value') :: after'))
  | entry {before after after' : List Json} {item : Json} :
    SameUpTo [before.length] (Tag.map.wrap (.array (before ++ item :: after)))
      (Tag.map.wrap (.array (before ++ item :: after')))
  | key {before after after' : List Json} {members members' : List (String × Json)}
    (same : Table.find? (· == ·) "key" members = Table.find? (· == ·) "key" members') :
    SameUpTo [before.length] (Tag.map.wrap (.array (before ++ .object members :: after)))
      (Tag.map.wrap (.array (before ++ .object members' :: after')))
  | value {before after after' : List Json} {members members' : List (String × Json)} {value value' : Json}
    {place : Place} (key : Table.find? (· == ·) "key" members = Table.find? (· == ·) "key" members')
    (given : Table.find? (· == ·) "value" members = some value)
    (given' : Table.find? (· == ·) "value" members' = some value') (same : SameUpTo place value value') :
    SameUpTo (before.length :: 0 :: place) (Tag.map.wrap (.array (before ++ .object members :: after)))
      (Tag.map.wrap (.array (before ++ .object members' :: after')))

variable {resolver : Option Resolver}

theorem entryFault_congr {members members' : List (String × Json)}
    (h : Table.find? (· == ·) "key" members = Table.find? (· == ·) "key" members') {e : StorageError} :
    EntryFault (.object members) e ↔ EntryFault (.object members') e := by
  rw [entryFault_object_iff, entryFault_object_iff, Storage.entryKey, Storage.entryKey, h]

theorem first_entryViolations_value {members : List (String × Json)} {value : Json} {place : Place}
    {e : StorageError} (given : Table.find? (· == ·) "value" members = some value) :
    ((Json.object members).entryViolations resolver).First (0 :: place) e ↔
      (∀ e', ¬ EntryFault (.object members) e') ∧ (value.violations resolver).First place e := by
  have hvalue : (Json.object members).entryValue? = some value := given
  rw [entryViolations, hvalue, Option.toList_some, Faults.first_above_cons, Faults.first_among_zero]

/-- The first violation stays the first one, whatever comes after it. -/
theorem SameUpTo.first {place : Place} {document other : Json} {e : StorageError}
    (hsame : SameUpTo place document other) (h : (document.violations resolver).First place e) :
    (other.violations resolver).First place e := by
  induction hsame with
  | self => exact h
  | item same ih =>
    rw [violations_array, Faults.first_among_append] at h ⊢
    exact h.imp_right ih
  | member untagged untagged' same ih =>
    rw [violations_object untagged, Faults.first_among_append] at h
    rw [violations_object untagged', Faults.first_among_append]
    exact h.imp_right ih
  | entry =>
    rw [Tag.violations_map, Faults.first_among_append] at h ⊢
    exact h
  | key same =>
    rw [Tag.violations_map, Faults.first_among_append, entryViolations, Faults.first_above_nil] at h ⊢
    simpa only [entryFault_congr same] using h
  | value key given given' same ih =>
    rw [Tag.violations_map, Faults.first_among_append, first_entryViolations_value given] at h
    rw [Tag.violations_map, Faults.first_among_append, first_entryViolations_value given']
    simp only [← entryFault_congr key]
    exact h.imp_right (And.imp_right ih)

end Json

namespace Storage

theorem ofMembers_eq_ok_iff {resolver : Option Resolver} {members : List (String × Json)}
    {fields : List (String × Storage)} :
    ofMembers resolver members = .ok fields ↔
      List.Forall₂ (fun member field => field.1 = member.1 ∧ ofDocument resolver member.2 = .ok field.2)
        members fields := by
  induction members generalizing fields with
  | nil => simp [ofMembers, eq_comm]
  | cons member rest ih =>
    obtain ⟨name, json⟩ := member
    rw [ofMembers_cons_eq_ok_iff, List.forall₂_cons_left_iff]
    constructor
    · rintro ⟨value, others, hvalue, hothers, rfl⟩
      exact ⟨(name, value), others, ⟨rfl, hvalue⟩, ih.1 hothers, rfl⟩
    · rintro ⟨⟨_, value⟩, others, ⟨rfl, hvalue⟩, hothers, rfl⟩
      exact ⟨value, others, hvalue, ih.2 hothers, rfl⟩

/-- A document is a snapshot if each object in it that a tag claims has what the tag asks for. If one has not, the
first violation is reported, whatever comes after it. Beside other members the name of a tag claims nothing. -/
theorem ofDocument_outcome (resolver : Option Resolver) (document : Json) :
    ((∃ value, ofDocument resolver document = .ok value) ↔
      ∀ (place : Place) (tag : Tag) (body : Json), document.Reaches place (tag.wrap body) →
        tag.Admits resolver body) ∧
    (∀ e, ofDocument resolver document = .error e ↔ ∃ place, (document.violations resolver).First place e) ∧
    (∀ place e other, (document.violations resolver).First place e → document.SameUpTo place other →
      ofDocument resolver other = .error e) ∧
    ∀ members, document = .object members → members.length ≠ 1 → ∀ value,
      ofDocument resolver document = .ok value ↔ ∃ fields, value = .object fields ∧
        List.Forall₂ (fun member field => field.1 = member.1 ∧ ofDocument resolver member.2 = .ok field.2)
          members fields := by
  refine ⟨?_, fun e => (stop_ofDocument document).eq_error_iff, ?_, ?_⟩
  · rw [(stop_ofDocument document).isOk_iff]
    constructor
    · intro hnone place tag body hreaches
      refine (Tag.admits_iff tag body).2 fun inner e hviolated => ?_
      exact hnone (place ++ inner) e ⟨place, inner, tag, body, rfl, hreaches, hviolated⟩
    · rintro hadmits place e ⟨outer, inner, tag, body, rfl, hreaches, hviolated⟩
      exact (Tag.admits_iff tag body).1 (hadmits outer tag body hreaches) inner e hviolated
  · intro place e other hfirst hsame
    exact (stop_ofDocument other).eq_error_iff.2 ⟨place, hsame.first hfirst⟩
  · rintro members rfl hlength value
    have huntagged : Json.Untagged members := by
      rintro tag body rfl
      exact hlength rfl
    rw [ofDocument_object huntagged, Outcome.map_eq_ok_iff]
    simp only [ofMembers_eq_ok_iff]
    constructor
    · rintro ⟨fields, hfields, rfl⟩
      exact ⟨fields, rfl, hfields⟩
    · rintro ⟨fields, rfl, hfields⟩
      exact ⟨fields, hfields, rfl⟩

/-- The key of an entry comes before its value, wherever it stands. -/
example : ofDocument none (.array
    [.object [(Tag.int.name, .null), ("other", .null)],
      Tag.map.wrap (.array [.object [("value", Tag.int.wrap .null), ("key", .object [("id", .array [])])]]),
      Tag.bytes.wrap .null]) = .error (.snapshot .entryWithoutKey) := rfl

end Storage

end StorageQuery
