import StorageQuery.Proofs.Faults
import StorageQuery.Proofs.Storage.Document
/-!
What can be wrong in a document that is read as a snapshot. Reading comes to objects with one member named by a
tag, and each of them asks something of the body of its tag. What is wrong with a body, and where, is said here
without reading it, and it is shown that reading the body of a tag reports just that.
-/

set_option autoImplicit false

namespace StorageQuery

namespace Json

def HasText (json : Json) (text : String) : Prop := json = .string text ∨ ∃ n, json = .number n ∧ n.text = text

def Names (body : Json) (pointer : String) : Prop :=
  body.HasText pointer ∨ ∃ members id, body = .object members ∧
    Table.find? (· == ·) "id" members = some id ∧ id.HasText pointer

def Untagged (members : List (String × Json)) : Prop := ∀ (tag : Tag) body, members ≠ [(tag.name, body)]

def entryValue? : Json → Option Json
  | .object members => Table.find? (· == ·) "value" members
  | _ => none

/-- What is read as a document while a document is read: items, the members of objects that no tag claims, and
the values of the entries of maps. -/
inductive Reaches : Json → Place → Json → Prop where
  | self (document : Json) : Reaches document [] document
  | item {items : List Json} {i : Nat} {item inner : Json} {place : Place} (found : items[i]? = some item)
    (reaches : Reaches item place inner) : Reaches (.array items) (i :: place) inner
  | member {members : List (String × Json)} {i : Nat} {name : String} {value inner : Json} {place : Place}
    (untagged : Untagged members) (found : members[i]? = some (name, value))
    (reaches : Reaches value place inner) : Reaches (.object members) (i :: place) inner
  | entry {items : List Json} {i : Nat} {item value inner : Json} {place : Place} (found : items[i]? = some item)
    (given : item.entryValue? = some value) (reaches : Reaches value place inner) :
    Reaches (.object [(Tag.map.name, .array items)]) (i :: 0 :: place) inner

end Json

section
variable (resolver : Option Resolver)

/-- What is wrong with an entry of a map, whatever its value is. -/
inductive EntryFault : Json → StorageError → Prop where
  | shape {item : Json} (other : ∀ members, item ≠ .object members) :
    EntryFault item (.snapshot .entryNotObject)
  | key {members : List (String × Json)}
    (unusable : ∀ key, Table.find? (· == ·) "key" members = some key → ¬ key.IsKey) :
    EntryFault (.object members) (.snapshot .entryWithoutKey)

/-- What is wrong with the body of a tag, and where in it. -/
inductive Tag.Violated : Tag → Json → Place → StorageError → Prop where
  | notList {body : Json} (other : ∀ items, body ≠ .array items) :
    Tag.Violated .map body [] (.snapshot .mapNotList)
  | entry {items : List Json} {i : Nat} {item : Json} {e : StorageError} (found : items[i]? = some item)
    (fault : EntryFault item e) : Tag.Violated .map (.array items) [i] e
  | notPointer {body : Json} (other : ∀ text, ¬ body.HasText text) (object : ∀ members, body ≠ .object members) :
    Tag.Violated .bigMap body [] (.snapshot .notAPointer)
  | noId {members : List (String × Json)}
    (unusable : ∀ id, Table.find? (· == ·) "id" members = some id → ∀ text, ¬ id.HasText text) :
    Tag.Violated .bigMap (.object members) [] (.snapshot .noPointer)
  | noResolver {body : Json} {pointer : String} (names : body.Names pointer) (none : resolver = none) :
    Tag.Violated .bigMap body [] (.snapshot (.noResolver pointer))
  | unresolved {body : Json} {pointer : String} {resolve : Resolver} {e : StorageError}
    (names : body.Names pointer) (some : resolver = some resolve) (refused : resolve pointer = .error e) :
    Tag.Violated .bigMap body [] e
  | notInteger {body : Json} (other : ∀ text, ¬ body.HasText text) :
    Tag.Violated .int body [] (.snapshot .notAnInteger)
  | invalidInteger {body : Json} {text : String} {fault : Decimal.Fault} (spelt : body.HasText text)
    (read : Decimal.readInt text.toList = .error fault) :
    Tag.Violated .int body [] (.snapshot (.invalidInteger text fault))
  | notText {body : Json} (other : ∀ text, body ≠ .string text) :
    Tag.Violated .bytes body [] (.snapshot .notBytes)
  | invalidBytes {text : String} {fault : Hex.Fault}
    (read : Hex.readBytes (Text.utf8 text.toList) = .error fault) :
    Tag.Violated .bytes (.string text) [] (.snapshot (.invalidBytes text fault))

def Json.violations (document : Json) : Faults StorageError := fun place e =>
  ∃ outer inner tag body, place = outer ++ inner ∧ document.Reaches outer (tag.wrap body) ∧
    Tag.Violated resolver tag body inner e

/-- All that is wrong in an entry of a map: its shape and its key come before its value. -/
def Json.entryViolations (item : Json) : Faults StorageError :=
  Faults.above (EntryFault item) (Json.violations resolver) item.entryValue?.toList

end

namespace Json

variable {resolver : Option Resolver}

theorem reaches_array_iff {items : List Json} {place : Place} {inner : Json} :
    (Json.array items).Reaches place inner ↔ place = [] ∧ inner = .array items ∨
      ∃ i rest item, place = i :: rest ∧ items[i]? = some item ∧ item.Reaches rest inner := by
  constructor
  · intro h
    cases h with
    | self => exact .inl ⟨rfl, rfl⟩
    | item found reaches => exact .inr ⟨_, _, _, rfl, found, reaches⟩
  · rintro (⟨rfl, rfl⟩ | ⟨i, rest, item, rfl, found, reaches⟩)
    · exact .self _
    · exact .item found reaches

theorem reaches_object_iff {members : List (String × Json)} {place : Place} {inner : Json} :
    (Json.object members).Reaches place inner ↔ place = [] ∧ inner = .object members ∨
      (Untagged members ∧ ∃ i rest member, place = i :: rest ∧ members[i]? = some member ∧
        member.2.Reaches rest inner) ∨
      ∃ items i rest item value, members = [(Tag.map.name, .array items)] ∧ place = i :: 0 :: rest ∧
        items[i]? = some item ∧ item.entryValue? = some value ∧ value.Reaches rest inner := by
  constructor
  · intro h
    cases h with
    | self => exact .inl ⟨rfl, rfl⟩
    | member untagged found reaches => exact .inr (.inl ⟨untagged, _, _, _, rfl, found, reaches⟩)
    | entry found given reaches =>
      exact .inr (.inr ⟨_, _, _, _, _, rfl, rfl, found, given, reaches⟩)
  · rintro (⟨rfl, rfl⟩ | ⟨untagged, i, rest, ⟨name, value⟩, rfl, found, reaches⟩ |
      ⟨items, i, rest, item, value, rfl, rfl, found, given, reaches⟩)
    · exact .self _
    · exact .member untagged found reaches
    · exact .entry found given reaches

theorem not_violations {json : Json} (array : ∀ items, json ≠ .array items)
    (object : ∀ members, json ≠ .object members) (place : Place) (e : StorageError) :
    ¬ json.violations resolver place e := by
  rintro ⟨outer, inner, tag, body, -, hreaches, -⟩
  cases hreaches with
  | self => exact object _ rfl
  | item => exact array _ rfl
  | member => exact object _ rfl
  | entry => exact object _ rfl

theorem violations_array (items : List Json) :
    (Json.array items).violations resolver = Faults.among (violations resolver) items := by
  funext place e
  refine propext ⟨?_, ?_⟩
  · rintro ⟨outer, inner, tag, body, rfl, hreaches, hviolated⟩
    rcases reaches_array_iff.1 hreaches with ⟨-, heq⟩ | ⟨i, rest, item, rfl, found, hreaches⟩
    · cases heq
    · exact ⟨item, found, rest, inner, tag, body, rfl, hreaches, hviolated⟩
  · intro h
    match place with
    | [] => exact h.elim
    | i :: place =>
      obtain ⟨item, found, outer, inner, tag, body, rfl, hreaches, hviolated⟩ := h
      exact ⟨i :: outer, inner, tag, body, rfl, .item found hreaches, hviolated⟩

theorem violations_object {members : List (String × Json)} (h : Untagged members) :
    (Json.object members).violations resolver =
      Faults.among (fun member => member.2.violations resolver) members := by
  funext place e
  refine propext ⟨?_, ?_⟩
  · rintro ⟨outer, inner, tag, body, rfl, hreaches, hviolated⟩
    rcases reaches_object_iff.1 hreaches with
      ⟨-, heq⟩ | ⟨-, i, rest, member, rfl, found, hreaches⟩ | ⟨items, _, _, _, _, heq, -⟩
    · exact absurd (Json.object.inj heq).symm (h tag body)
    · exact ⟨member, found, rest, inner, tag, body, rfl, hreaches, hviolated⟩
    · exact absurd heq (h .map _)
  · intro hfault
    match place with
    | [] => exact hfault.elim
    | i :: place =>
      obtain ⟨member, found, outer, inner, tag, body, rfl, hreaches, hviolated⟩ := hfault
      exact ⟨i :: outer, inner, tag, body, rfl, .member h found hreaches, hviolated⟩

end Json

namespace Tag

variable {resolver : Option Resolver}

theorem wrap_inj {tag tag' : Tag} {body body' : Json} (h : tag.wrap body = tag'.wrap body') :
    tag = tag' ∧ body = body' := by
  simp only [wrap, Json.object.injEq, List.cons.injEq, Prod.mk.injEq, and_true] at h
  obtain ⟨hname, hbody⟩ := h
  have htag := ofName?_name tag
  rw [hname, ofName?_name, Option.some.injEq] at htag
  exact ⟨htag.symm, hbody⟩

theorem violations_wrap_iff {tag : Tag} {body : Json} {place : Place} {e : StorageError} :
    (tag.wrap body).violations resolver place e ↔ Violated resolver tag body place e ∨
      ∃ items i rest item value, tag = .map ∧ body = .array items ∧ place = i :: 0 :: rest ∧
        items[i]? = some item ∧ item.entryValue? = some value ∧ value.violations resolver rest e := by
  constructor
  · rintro ⟨outer, inner, tag', body', rfl, hreaches, hviolated⟩
    rcases Json.reaches_object_iff.1 hreaches with
      ⟨rfl, heq⟩ | ⟨huntagged, -⟩ | ⟨items, i, rest, item, value, heq, rfl, found, given, hinner⟩
    · obtain ⟨rfl, rfl⟩ := wrap_inj heq
      exact .inl hviolated
    · exact absurd rfl (huntagged tag body)
    · have hwrap : tag.wrap body = Tag.map.wrap (.array items) := congrArg Json.object heq
      obtain ⟨rfl, rfl⟩ := wrap_inj hwrap
      exact .inr ⟨items, i, rest ++ inner, item, value, rfl, rfl, rfl, found, given, rest, inner, tag', body', rfl,
        hinner, hviolated⟩
  · rintro (hviolated |
      ⟨items, i, rest, item, value, rfl, rfl, rfl, found, given, outer, inner, tag', body', rfl, hreaches, hviolated⟩)
    · exact ⟨[], place, tag, body, rfl, .self _, hviolated⟩
    · exact ⟨i :: 0 :: outer, inner, tag', body', rfl, .entry found given hreaches, hviolated⟩

theorem violations_wrap (tag : Tag) (h : tag ≠ .map) (body : Json) :
    (tag.wrap body).violations resolver = Violated resolver tag body := by
  funext place e
  rw [violations_wrap_iff]
  exact propext ⟨fun hfault => hfault.resolve_right fun ⟨_, _, _, _, _, hmap, _⟩ => h hmap, .inl⟩

theorem violations_notList {body : Json} (h : ∀ items, body ≠ .array items) :
    (Tag.map.wrap body).violations resolver = Faults.alone fun e => e = .snapshot .mapNotList := by
  refine Faults.eq_alone fun place e => ?_
  rw [violations_wrap_iff]
  constructor
  · rintro (hviolated | ⟨items, _, _, _, _, -, heq, -⟩)
    · cases hviolated with
      | notList => exact ⟨rfl, rfl⟩
      | entry => exact absurd rfl (h _)
    · exact absurd heq (h items)
  · rintro ⟨rfl, rfl⟩
    exact .inl (.notList h)

theorem violations_map (items : List Json) :
    (Tag.map.wrap (.array items)).violations resolver = Faults.among (Json.entryViolations resolver) items := by
  funext place e
  rw [violations_wrap_iff]
  refine propext ⟨?_, ?_⟩
  · rintro (hviolated | ⟨_, i, rest, item, value, -, ⟨⟩, rfl, found, given, hfault⟩)
    · cases hviolated with
      | notList other => exact absurd rfl (other items)
      | entry found fault => exact ⟨_, found, fault⟩
    · exact ⟨item, found, value, by rw [given]; rfl, hfault⟩
  · intro hfault
    match place with
    | [] => exact hfault.elim
    | [i] =>
      obtain ⟨item, found, fault⟩ := hfault
      exact .inl (.entry found fault)
    | i :: j :: rest =>
      obtain ⟨item, found, value, given, fault⟩ := hfault
      cases hvalue : item.entryValue? with
      | none =>
        rw [hvalue] at given
        cases given
      | some value' =>
        rw [hvalue] at given
        -- the value is the one part of an entry that is read as a document
        match j with
        | 0 =>
          cases given
          exact .inr ⟨items, i, rest, item, value, rfl, rfl, rfl, found, hvalue, fault⟩
        | j + 1 => cases given

end Tag

namespace Json

theorem hasText_or (json : Json) : (∃ text, json.HasText text) ∨ ∀ text, ¬ json.HasText text :=
  (Classical.em _).imp_right not_exists.1

theorem names_cases (body : Json) : (∃ pointer, body.Names pointer) ∨
    (∃ members, body = .object members ∧ ∀ id, Table.find? (· == ·) "id" members = some id →
      ∀ text, ¬ id.HasText text) ∨
    (∀ text, ¬ body.HasText text) ∧ ∀ members, body ≠ .object members := by
  by_cases hnames : ∃ pointer, body.Names pointer
  · exact .inl hnames
  · by_cases hobject : ∃ members, body = .object members
    · obtain ⟨members, rfl⟩ := hobject
      exact .inr (.inl ⟨members, rfl, fun id found text ht => hnames ⟨text, .inr ⟨members, id, rfl, found, ht⟩⟩⟩)
    · exact .inr (.inr ⟨fun text ht => hnames ⟨text, .inl ht⟩, fun members heq => hobject ⟨members, heq⟩⟩)

end Json

theorem entryFault_object_iff {members : List (String × Json)} {e : StorageError} :
    EntryFault (.object members) e ↔ Storage.entryKey members = .error e := by
  rw [Storage.entryKey]
  cases hkey : (Table.find? (· == ·) "key" members).bind Key.ofJson? with
  | some key =>
    obtain ⟨json, found, hread⟩ := Option.bind_eq_some_iff.1 hkey
    constructor
    · intro h
      cases h with
      | shape other => exact absurd rfl (other members)
      | key unusable => exact absurd ((Key.exists_ofJson?_iff json).1 ⟨key, hread⟩) (unusable json found)
    · intro h
      cases h
  | none =>
    constructor
    · intro h
      cases h with
      | shape other => exact absurd rfl (other members)
      | key => rfl
    · intro h
      cases h
      refine .key fun json found hjson => ?_
      obtain ⟨key, hread⟩ := (Key.exists_ofJson?_iff json).2 hjson
      rw [found, Option.bind_some, hread] at hkey
      cases hkey

namespace Storage

theorem ofInt_of_hasText {body : Json} {text : String} (h : body.HasText text) :
    ofInt body =
      match Decimal.readInt text.toList with
      | .ok n => .ok (.bigInt n)
      | .error fault => .error (.snapshot (.invalidInteger text fault)) := by
  rcases h with rfl | ⟨n, rfl, rfl⟩
  · rfl
  · rfl

theorem ofInt_of_not_hasText {body : Json} (h : ∀ text, ¬ body.HasText text) :
    ofInt body = .error (.snapshot .notAnInteger) := by
  cases body with
  | string text => exact absurd (.inl rfl) (h text)
  | number n => exact absurd (.inr ⟨n, rfl, rfl⟩) (h n.text)
  | _ => rfl

theorem readPointer_of_names {body : Json} {pointer : String} (h : body.Names pointer) :
    ∃ size, readPointer body = .ok ⟨pointer, size⟩ := by
  rcases h with (rfl | ⟨n, rfl, rfl⟩) | ⟨members, id, rfl, found, rfl | ⟨n, rfl, rfl⟩⟩
  · exact ⟨none, rfl⟩
  · exact ⟨none, rfl⟩
  · rw [readPointer, found]
    exact ⟨_, rfl⟩
  · rw [readPointer, found]
    exact ⟨_, rfl⟩

theorem readPointer_of_noId {members : List (String × Json)}
    (unusable : ∀ id, Table.find? (· == ·) "id" members = some id → ∀ text, ¬ id.HasText text) :
    readPointer (.object members) = .error (.snapshot .noPointer) := by
  rw [readPointer]
  cases found : Table.find? (· == ·) "id" members with
  | none => rfl
  | some id =>
    cases id with
    | string text => exact absurd (.inl rfl) (unusable _ found text)
    | number n => exact absurd (.inr ⟨n, rfl, rfl⟩) (unusable _ found n.text)
    | _ => rfl

theorem readPointer_of_notPointer {body : Json} (other : ∀ text, ¬ body.HasText text)
    (object : ∀ members, body ≠ .object members) : readPointer body = .error (.snapshot .notAPointer) := by
  cases body with
  | object members => exact absurd rfl (object members)
  | string text => exact absurd (.inl rfl) (other text)
  | number n => exact absurd (.inr ⟨n, rfl, rfl⟩) (other n.text)
  | _ => rfl

theorem names_of_readPointer {body : Json} {handle : BigMap} (h : readPointer body = .ok handle) :
    body.Names handle.pointer := by
  rcases body.names_cases with ⟨pointer, names⟩ | ⟨members, rfl, unusable⟩ | ⟨other, object⟩
  · obtain ⟨size, hread⟩ := readPointer_of_names names
    cases hread.symm.trans h
    exact names
  · cases (readPointer_of_noId unusable).symm.trans h
  · cases (readPointer_of_notPointer other object).symm.trans h

variable {resolver : Option Resolver}

theorem ofPointer_of_ok {body : Json} {handle : BigMap} (h : readPointer body = .ok handle) :
    ofPointer resolver body =
      match resolver with
      | none => .error (.snapshot (.noResolver handle.pointer))
      | some resolve => (resolve handle.pointer).map fun pointer => .bigMap { handle with pointer } := by
  rw [ofPointer, h]
  cases resolver with
  | none => rfl
  | some resolve =>
    change (resolve handle.pointer >>= fun pointer => Except.ok (bigMap { handle with pointer })) =
      (resolve handle.pointer).map fun pointer => bigMap { handle with pointer }
    cases resolve handle.pointer <;> rfl

theorem ofPointer_of_error {body : Json} {e : StorageError} (h : readPointer body = .error e) :
    ofPointer resolver body = .error e := by
  rw [ofPointer, h]
  rfl

end Storage

namespace Tag

variable {resolver : Option Resolver}

theorem violated_int (body : Json) :
    Violated resolver .int body = Faults.alone fun e => Storage.ofInt body = .error e := by
  refine Faults.eq_alone fun place e => ⟨fun h => ?_, ?_⟩
  · cases h with
    | notInteger other => exact ⟨rfl, Storage.ofInt_of_not_hasText other⟩
    | invalidInteger spelt read =>
      refine ⟨rfl, ?_⟩
      rw [Storage.ofInt_of_hasText spelt, read]
  · rintro ⟨rfl, h⟩
    rcases body.hasText_or with ⟨text, spelt⟩ | other
    · rw [Storage.ofInt_of_hasText spelt] at h
      cases hread : Decimal.readInt text.toList with
      | ok n =>
        rw [hread] at h
        cases h
      | error fault =>
        rw [hread] at h
        cases h
        exact .invalidInteger spelt hread
    · rw [Storage.ofInt_of_not_hasText other] at h
      cases h
      exact .notInteger other

theorem violated_bytes (body : Json) :
    Violated resolver .bytes body = Faults.alone fun e => Storage.ofBytes body = .error e := by
  refine Faults.eq_alone fun place e => ⟨fun h => ?_, ?_⟩
  · cases h with
    | notText other =>
      cases body with
      | string text => exact absurd rfl (other text)
      | _ => exact ⟨rfl, rfl⟩
    | @invalidBytes text fault read =>
      refine ⟨rfl, ?_⟩
      rw [Storage.ofBytes, read]
      rfl
  · rintro ⟨rfl, h⟩
    cases body with
    | string text =>
      rw [Storage.ofBytes] at h
      cases hread : Hex.readBytes (Text.utf8 text.toList) with
      | ok bytes =>
        rw [hread] at h
        cases h
      | error fault =>
        rw [hread] at h
        cases h
        exact .invalidBytes hread
    | _ =>
      cases h
      exact .notText nofun

theorem violated_bigMap (body : Json) :
    Violated resolver .bigMap body = Faults.alone fun e => Storage.ofPointer resolver body = .error e := by
  refine Faults.eq_alone fun place e => ⟨fun h => ?_, ?_⟩
  · cases h with
    | notPointer other object =>
      exact ⟨rfl, Storage.ofPointer_of_error (Storage.readPointer_of_notPointer other object)⟩
    | noId unusable => exact ⟨rfl, Storage.ofPointer_of_error (Storage.readPointer_of_noId unusable)⟩
    | noResolver names none =>
      obtain ⟨size, hread⟩ := Storage.readPointer_of_names names
      refine ⟨rfl, ?_⟩
      rw [Storage.ofPointer_of_ok hread, none]
    | unresolved names some refused =>
      obtain ⟨size, hread⟩ := Storage.readPointer_of_names names
      refine ⟨rfl, ?_⟩
      rw [Storage.ofPointer_of_ok hread, some]
      simp only [refused]
      rfl
  · rintro ⟨rfl, h⟩
    rcases body.names_cases with ⟨pointer, names⟩ | ⟨members, rfl, unusable⟩ | ⟨other, object⟩
    · obtain ⟨size, hread⟩ := Storage.readPointer_of_names names
      rw [Storage.ofPointer_of_ok hread] at h
      cases resolver with
      | none =>
        cases h
        exact .noResolver names rfl
      | some resolve =>
        cases hresolve : resolve pointer with
        | ok found =>
          simp only [hresolve] at h
          cases h
        | error e' =>
          simp only [hresolve] at h
          cases h
          exact .unresolved names rfl hresolve
    · rw [Storage.ofPointer_of_error (Storage.readPointer_of_noId unusable)] at h
      cases h
      exact .noId unusable
    · rw [Storage.ofPointer_of_error (Storage.readPointer_of_notPointer other object)] at h
      cases h
      exact .notPointer other object

end Tag

end StorageQuery
