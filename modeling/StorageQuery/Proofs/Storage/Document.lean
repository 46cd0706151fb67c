import StorageQuery.Storage.Plain
import StorageQuery.Storage.Snapshot
import StorageQuery.Proofs.Key.Equality
import StorageQuery.Proofs.Outcome
/-!
Storages as snapshots. What a document stands for is never ambiguous: no object that a tag would claim,
no key twice in a map. So it can be written down again, and the snapshot that is written stands for the
same storage.
-/

set_option autoImplicit false

namespace StorageQuery

namespace Tag

theorem ofName?_name (tag : Tag) : ofName? tag.name = some tag := by
  cases tag <;> decide

theorem name_of_ofName? {name : String} {tag : Tag} (h : ofName? name = some tag) : name = tag.name := by
  have hname := List.find?_some h
  exact (eq_of_beq hname).symm

def wrap (tag : Tag) (body : Json) : Json := .object [(tag.name, body)]

end Tag

/-- A big map is known by the pointer under which it is asked for. -/
def Resolver.Faithful (resolver : Resolver) : Prop :=
  ∀ pointer found, resolver pointer = .ok found → found = pointer

namespace Storage

def pointerDocument (handle : BigMap) : Json :=
  .object (("id", .string handle.pointer) ::
    (handle.size.map fun size => ("size", Json.number (.ofUInt64 size))).toList)

mutual
/-- The snapshot of a storage: what has no form of its own in a document is tagged. -/
def toDocument : Storage → Json
  | .null => .null
  | .bool b => .bool b
  | .number n => .number n
  | .bigInt n => Tag.int.wrap (.string (String.ofList (Decimal.ofInt n)))
  | .string s => .string s
  | .bytes bs => Tag.bytes.wrap (.string (String.ofList (Hex.ofBytes bs)))
  | .array items => .array (toItems items)
  | .object fields => .object (toMembers fields)
  | .map entries => Tag.map.wrap (.array (toEntries entries))
  | .bigMap handle => Tag.bigMap.wrap (pointerDocument handle)
def toItems : List Storage → List Json
  | [] => []
  | item :: rest => toDocument item :: toItems rest
def toMembers : List (String × Storage) → List (String × Json)
  | [] => []
  | (name, value) :: rest => (name, toDocument value) :: toMembers rest
def toEntries : List (Key × Storage) → List Json
  | [] => []
  | (key, value) :: rest => plainEntry key (toDocument value) :: toEntries rest
end

section
variable (resolver : Option Resolver)

mutual
/-- What a snapshot can stand for, at every depth: no object that a tag would claim, no two keys of a map
the same, no big map but those that the resolver leads to. -/
def Legible : Storage → Prop
  | .array items => LegibleItems items
  | .object fields => (∀ (tag : Tag) value, fields ≠ [(tag.name, value)]) ∧ LegibleFields fields
  | .map entries =>
    (Table.keys entries).Pairwise (fun a b => a.same b = false ∧ b.same a = false) ∧
      LegibleEntries entries
  | .bigMap handle => ∃ resolve ∈ resolver, ∃ pointer, resolve pointer = .ok handle.pointer
  | _ => True
def LegibleItems : List Storage → Prop
  | [] => True
  | item :: rest => Legible item ∧ LegibleItems rest
def LegibleFields : List (String × Storage) → Prop
  | [] => True
  | (_, value) :: rest => Legible value ∧ LegibleFields rest
def LegibleEntries : List (Key × Storage) → Prop
  | [] => True
  | (key, value) :: rest => key.WellFormed ∧ Legible value ∧ LegibleEntries rest
end

end

variable {resolver : Option Resolver}

theorem legibleEntries_iff {entries : List (Key × Storage)} :
    LegibleEntries resolver entries ↔
      ∀ entry ∈ entries, entry.1.WellFormed ∧ entry.2.Legible resolver := by
  induction entries with
  | nil => simp [LegibleEntries]
  | cons entry rest ih =>
    obtain ⟨key, value⟩ := entry
    simp [LegibleEntries, ih, and_assoc]

theorem ofDocument_object {members : List (String × Json)}
    (h : ∀ (tag : Tag) body, members ≠ [(tag.name, body)]) :
    ofDocument resolver (.object members) = (ofMembers resolver members).map .object := by
  match members with
  | [] => rfl
  | _ :: _ :: _ => rfl
  | [(name, body)] =>
    have hname : Tag.ofName? name = none := by
      cases hn : Tag.ofName? name with
      | none => rfl
      | some tag => exact absurd (Tag.name_of_ofName? hn ▸ rfl) (h tag body)
    rw [ofDocument, hname, ofMembers, ofMembers]
    cases ofDocument resolver body <;> rfl

theorem ofDocument_wrap (tag : Tag) (body : Json) :
    ofDocument resolver (tag.wrap body) =
      match tag with
      | .map => (ofMapBody resolver body).map ofEntries
      | .bigMap => ofPointer resolver body
      | .int => ofInt body
      | .bytes => ofBytes body := by
  rw [Tag.wrap, ofDocument, Tag.ofName?_name]
  cases tag <;> rfl

theorem ofItems_cons_eq_ok_iff {item : Json} {rest : List Json} {values : List Storage} :
    ofItems resolver (item :: rest) = .ok values ↔
      ∃ value others, ofDocument resolver item = .ok value ∧ ofItems resolver rest = .ok others ∧
        values = value :: others := by
  simp only [ofItems, Outcome.bind_eq_ok_iff, pure, Except.pure, Except.ok.injEq]
  grind

theorem ofMembers_cons_eq_ok_iff {name : String} {member : Json} {rest : List (String × Json)}
    {fields : List (String × Storage)} :
    ofMembers resolver ((name, member) :: rest) = .ok fields ↔
      ∃ value others, ofDocument resolver member = .ok value ∧ ofMembers resolver rest = .ok others ∧
        fields = (name, value) :: others := by
  simp only [ofMembers, Outcome.bind_eq_ok_iff, pure, Except.pure, Except.ok.injEq]
  grind

theorem entriesOf_cons_eq_ok_iff {item : Json} {rest : List Json} {entries : List (Key × Storage)} :
    entriesOf resolver (item :: rest) = .ok entries ↔
      ∃ entry others, entryOf resolver item = .ok entry ∧ entriesOf resolver rest = .ok others ∧
        entries = entry :: others := by
  simp only [entriesOf, Outcome.bind_eq_ok_iff, pure, Except.pure, Except.ok.injEq]
  grind

theorem entryOf_object_eq_ok_iff {members : List (String × Json)} {entry : Key × Storage} :
    entryOf resolver (.object members) = .ok entry ↔
      (Table.find? (· == ·) "key" members).bind Key.ofJson? = some entry.1 ∧
        entryValue resolver members = .ok entry.2 := by
  obtain ⟨key, value⟩ := entry
  simp only [entryOf, entryKey, Outcome.bind_eq_ok_iff, pure, Except.pure, Except.ok.injEq]
  cases (Table.find? (· == ·) "key" members).bind Key.ofJson? with
  | none => exact ⟨fun ⟨_, h, _⟩ => (nomatch h), fun h => (nomatch h.1)⟩
  | some key' => simp only [Except.ok.injEq, Option.some.injEq, Prod.mk.injEq]; grind

theorem ofPointer_eq_ok_iff {body : Json} {value : Storage} :
    ofPointer resolver body = .ok value ↔
      ∃ handle resolve pointer, readPointer body = .ok handle ∧ resolver = some resolve ∧
        resolve handle.pointer = .ok pointer ∧ value = .bigMap { handle with pointer } := by
  simp only [ofPointer, Outcome.bind_eq_ok_iff]
  cases resolver with
  | none => exact ⟨fun ⟨_, _, h⟩ => (nomatch h), fun ⟨_, _, _, _, h, _⟩ => (nomatch h)⟩
  | some resolve =>
    simp only [Outcome.bind_eq_ok_iff, pure, Except.pure, Except.ok.injEq, Option.some.injEq]
    grind

theorem legible_ofEntries {entries : List (Key × Storage)} (h : LegibleEntries resolver entries) :
    (ofEntries entries).Legible resolver := by
  have hparts : ∀ entry ∈ Table.ofList Key.same entries,
      entry.1.WellFormed ∧ entry.2.Legible resolver :=
    Table.forall_mem_ofList (legibleEntries_iff.1 h)
  have hkeys : ∀ entry ∈ Table.ofList Key.same entries, entry.1.WellFormed :=
    fun entry hentry => (hparts entry hentry).1
  exact ⟨Key.lawful.pairwise_keys (Table.distinct_ofList Key.same entries) hkeys,
    legibleEntries_iff.2 hparts⟩

theorem legible_ofPointer {body : Json} {value : Storage} (h : ofPointer resolver body = .ok value) :
    value.Legible resolver := by
  obtain ⟨handle, resolve, pointer, -, hs, hp, rfl⟩ := ofPointer_eq_ok_iff.1 h
  exact ⟨resolve, hs, handle.pointer, hp⟩

theorem legible_ofInt {body : Json} {value : Storage} (h : ofInt body = .ok value) :
    value.Legible resolver := by
  cases body with
  | string _ | number _ =>
    simp only [ofInt] at h
    split at h
    · cases h; trivial
    · cases h
  | _ => cases h

theorem legible_ofBytes {body : Json} {value : Storage} (h : ofBytes body = .ok value) :
    value.Legible resolver := by
  cases body with
  | string text =>
    rw [ofBytes] at h
    split at h
    · cases h; trivial
    · cases h
  | _ => cases h

theorem legible_object {members : List (String × Json)} {value : Storage}
    (h : ofDocument resolver (.object members) = .ok value)
    (hfields : ∀ fields, ofMembers resolver members = .ok fields → LegibleFields resolver fields)
    (hentries : ∀ member ∈ members, ∀ entries, ofMapBody resolver member.2 = .ok entries →
      LegibleEntries resolver entries) : value.Legible resolver := by
  by_cases htag : ∃ (tag : Tag) (body : Json), members = [(tag.name, body)]
  · obtain ⟨tag, body, rfl⟩ := htag
    change ofDocument resolver (tag.wrap body) = .ok value at h
    rw [ofDocument_wrap] at h
    cases tag with
    | map =>
      obtain ⟨entries, he, rfl⟩ := Outcome.map_eq_ok_iff.1 h
      exact legible_ofEntries (hentries _ List.mem_cons_self entries he)
    | bigMap => exact legible_ofPointer h
    | int => exact legible_ofInt h
    | bytes => exact legible_ofBytes h
  · have huntagged : ∀ (tag : Tag) body, members ≠ [(tag.name, body)] :=
      fun tag body hm => htag ⟨tag, body, hm⟩
    rw [ofDocument_object huntagged] at h
    obtain ⟨fields, hf, rfl⟩ := Outcome.map_eq_ok_iff.1 h
    refine ⟨fun tag value hsingle => ?_, hfields fields hf⟩
    -- a single field comes from a single member of the same name
    match members with
    | [] => cases hsingle ▸ hf
    | [(name, body)] =>
      obtain ⟨_, _, -, -, heq⟩ := ofMembers_cons_eq_ok_iff.1 hf
      rw [hsingle, List.cons.injEq, Prod.mk.injEq] at heq
      exact huntagged tag body (by rw [heq.1.1])
    | (_, _) :: (_, _) :: _ =>
      obtain ⟨_, _, -, hrest, heq⟩ := ofMembers_cons_eq_ok_iff.1 hf
      obtain ⟨_, _, -, -, rfl⟩ := ofMembers_cons_eq_ok_iff.1 hrest
      rw [hsingle] at heq
      simp at heq

mutual
theorem legible_ofDocument : (document : Json) → {value : Storage} →
    ofDocument resolver document = .ok value → value.Legible resolver
  | .null, _, h | .bool _, _, h | .number _, _, h | .string _, _, h => by cases h; trivial
  | .array items, _, h => by
    obtain ⟨values, hv, rfl⟩ := Outcome.map_eq_ok_iff.1 h
    exact legible_ofItems items hv
  | .object members, _, h =>
    legible_object h (fun _ hf => legible_ofMembers members hf) (legible_ofMapBody_of_mem members)
theorem legible_ofItems : (items : List Json) → {values : List Storage} →
    ofItems resolver items = .ok values → LegibleItems resolver values
  | [], _, h => by cases h; trivial
  | item :: rest, _, h => by
    obtain ⟨value, others, hv, ho, rfl⟩ := ofItems_cons_eq_ok_iff.1 h
    exact ⟨legible_ofDocument item hv, legible_ofItems rest ho⟩
theorem legible_ofMembers : (members : List (String × Json)) → {fields : List (String × Storage)} →
    ofMembers resolver members = .ok fields → LegibleFields resolver fields
  | [], _, h => by cases h; trivial
  | (_, member) :: rest, _, h => by
    obtain ⟨value, others, hv, ho, rfl⟩ := ofMembers_cons_eq_ok_iff.1 h
    exact ⟨legible_ofDocument member hv, legible_ofMembers rest ho⟩
theorem legible_ofMapBody_of_mem : (members : List (String × Json)) → ∀ member ∈ members,
    ∀ entries, ofMapBody resolver member.2 = .ok entries → LegibleEntries resolver entries
  | [], _, hm, _, _ => nomatch hm
  | (name, body) :: rest, member, hm, entries, h => by
    rcases List.mem_cons.1 hm with rfl | hm
    · exact legible_ofMapBody body h
    · exact legible_ofMapBody_of_mem rest member hm entries h
theorem legible_ofMapBody : (body : Json) → {entries : List (Key × Storage)} →
    ofMapBody resolver body = .ok entries → LegibleEntries resolver entries
  | .array items, _, h => legible_entriesOf items h
  | .null, _, h | .bool _, _, h | .number _, _, h | .string _, _, h | .object _, _, h => nomatch h
theorem legible_entriesOf : (items : List Json) → {entries : List (Key × Storage)} →
    entriesOf resolver items = .ok entries → LegibleEntries resolver entries
  | [], _, h => by cases h; trivial
  | item :: rest, _, h => by
    obtain ⟨entry, others, he, ho, rfl⟩ := entriesOf_cons_eq_ok_iff.1 h
    obtain ⟨hkey, hvalue⟩ := legible_entryOf item he
    exact ⟨hkey, hvalue, legible_entriesOf rest ho⟩
theorem legible_entryOf : (item : Json) → {entry : Key × Storage} →
    entryOf resolver item = .ok entry → entry.1.WellFormed ∧ entry.2.Legible resolver
  | .object members, _, h => by
    obtain ⟨hkey, hvalue⟩ := entryOf_object_eq_ok_iff.1 h
    obtain ⟨json, -, hk⟩ := Option.bind_eq_some_iff.1 hkey
    exact ⟨Key.wellFormed_of_ofJson? json hk, legible_entryValue members hvalue⟩
  | .null, _, h | .bool _, _, h | .number _, _, h | .string _, _, h | .array _, _, h => nomatch h
theorem legible_entryValue : (members : List (String × Json)) → {value : Storage} →
    entryValue resolver members = .ok value → value.Legible resolver
  | [], _, h => by cases h; trivial
  | (name, member) :: rest, _, h => by
    rw [entryValue] at h
    split at h
    · exact legible_ofDocument member h
    · exact legible_entryValue rest h
end

/-! What is written stands for what was written. -/

theorem toMembers_ne_tagged {fields : List (String × Storage)}
    (h : ∀ (tag : Tag) value, fields ≠ [(tag.name, value)]) (tag : Tag) (body : Json) :
    toMembers fields ≠ [(tag.name, body)] := by
  match fields with
  | [] => simp [toMembers]
  | [(name, value)] =>
    intro hm
    simp only [toMembers, List.cons.injEq, Prod.mk.injEq] at hm
    exact h tag value (by rw [hm.1.1])
  | (_, _) :: (_, _) :: _ => simp [toMembers]

theorem readPointer_pointerDocument (handle : BigMap) :
    readPointer (pointerDocument handle) = .ok handle := by
  obtain ⟨pointer, size⟩ := handle
  cases size with
  | none => simp [pointerDocument, readPointer, Table.find?_cons]
  | some size =>
    have hsize : (Number.ofUInt64 size).toUInt64? = some size := by
      simp [Number.ofUInt64, Number.toUInt64?]
    simp [pointerDocument, readPointer, Table.find?_cons, hsize]

theorem entryOf_plainEntry {key : Key} (hk : key.WellFormed) {json : Json} {value : Storage}
    (h : ofDocument resolver json = .ok value) :
    entryOf resolver (plainEntry key json) = .ok (key, value) := by
  refine entryOf_object_eq_ok_iff.2 ⟨?_, ?_⟩
  · simp [Table.find?_cons, Key.ofJson?_toJson key hk]
  · simpa [entryValue] using h

mutual
theorem ofDocument_toDocument (hr : ∀ resolve ∈ resolver, resolve.Faithful) :
    (value : Storage) → value.Legible resolver → ofDocument resolver value.toDocument = .ok value
  | .null, _ | .bool _, _ | .number _, _ | .string _, _ => rfl
  | .bigInt n, _ => by
    rw [toDocument, ofDocument_wrap]
    simp [ofInt, Decimal.readInt_ofInt]
  | .bytes bs, _ => by
    rw [toDocument, ofDocument_wrap]
    simp [ofBytes, Hex.readBytes_ofBytes]
  | .array items, h => by
    rw [toDocument, ofDocument, ofItems_toItems hr items h]
    rfl
  | .object fields, h => by
    rw [toDocument, ofDocument_object (toMembers_ne_tagged h.1), ofMembers_toMembers hr fields h.2]
    rfl
  | .map entries, h => by
    have hdistinct : Table.Distinct Key.same entries := h.1.imp And.left
    rw [toDocument, ofDocument_wrap]
    simp only [ofMapBody, entriesOf_toEntries hr entries h.2, Except.map, ofEntries,
      Table.ofList_of_distinct hdistinct]
  | .bigMap handle, h => by
    obtain ⟨resolve, hs, pointer, hp⟩ := h
    have hpointer : handle.pointer = pointer := hr resolve hs pointer handle.pointer hp
    rw [toDocument, ofDocument_wrap]
    exact ofPointer_eq_ok_iff.2 ⟨handle, resolve, handle.pointer, readPointer_pointerDocument handle,
      hs, hpointer ▸ hp, rfl⟩
theorem ofItems_toItems (hr : ∀ resolve ∈ resolver, resolve.Faithful) :
    (items : List Storage) → LegibleItems resolver items → ofItems resolver (toItems items) = .ok items
  | [], _ => rfl
  | item :: rest, h => ofItems_cons_eq_ok_iff.2
    ⟨item, rest, ofDocument_toDocument hr item h.1, ofItems_toItems hr rest h.2, rfl⟩
theorem ofMembers_toMembers (hr : ∀ resolve ∈ resolver, resolve.Faithful) :
    (fields : List (String × Storage)) → LegibleFields resolver fields →
      ofMembers resolver (toMembers fields) = .ok fields
  | [], _ => rfl
  | (_, value) :: rest, h => ofMembers_cons_eq_ok_iff.2
    ⟨value, rest, ofDocument_toDocument hr value h.1, ofMembers_toMembers hr rest h.2, rfl⟩
theorem entriesOf_toEntries (hr : ∀ resolve ∈ resolver, resolve.Faithful) :
    (entries : List (Key × Storage)) → LegibleEntries resolver entries →
      entriesOf resolver (toEntries entries) = .ok entries
  | [], _ => rfl
  | (key, value) :: rest, h => entriesOf_cons_eq_ok_iff.2
    ⟨(key, value), rest, entryOf_plainEntry h.1 (ofDocument_toDocument hr value h.2.1),
      entriesOf_toEntries hr rest h.2.2, rfl⟩
end

/-- A storage that was read from a document is what its own snapshot stands for, and nothing in it is
ambiguous. -/
theorem snapshot_reads_back (resolver : Option Resolver)
    (hr : ∀ resolve ∈ resolver, resolve.Faithful) (document : Json) (value : Storage)
    (h : ofDocument resolver document = .ok value) :
    ofDocument resolver value.toDocument = .ok value ∧ value.Legible resolver :=
  have hlegible := legible_ofDocument document h
  ⟨ofDocument_toDocument hr value hlegible, hlegible⟩

/-- A map with a key that comes again in another form, digits in upper case, and a tag among others. -/
theorem snapshot_reads_back_repeated_key :
    let document : Json := .object
      [("ledger", Tag.map.wrap (.array [
          .object [("key", .bool true), ("value", Tag.int.wrap (.string "+1_0"))],
          .object [("key", .object [("b", .string "x"), ("a", .bool false)])],
          .object [("value", Tag.bytes.wrap (.string "0AfF")), ("key", .string "true")]])),
        ("owners", Tag.bigMap.wrap (.object [("size", .number (.ofUInt64 2)), ("id", .string "17")])),
        ("plain", .object [(Tag.int.name, .string "x"), ("other", .array [])])]
    let value : Storage := .object
      [("ledger", .map [(.bool true, .bytes [0x0a, 0xff]),
          (.composite [("b", .string "x"), ("a", .bool false)], .null)]),
        ("owners", .bigMap ⟨"17", some 2⟩),
        ("plain", .object [(Tag.int.name, .string "x"), ("other", .array [])])]
    let resolver : Option Resolver := some .ok
    ofDocument resolver document = .ok value ∧ ofDocument resolver value.toDocument = .ok value ∧
      value.Legible resolver := by
  intro document value resolver
  let pair : Key := .composite [("b", .string "x"), ("a", .bool false)]
  let entries : List (Key × Storage) := [(.bool true, .bigInt 10), (pair, .null), (.string "true", .bytes [0x0a, 0xff])]
  have hfilled : ofEntries entries = .map [(.bool true, .bytes [0x0a, 0xff]), (pair, .null)] := by
    have hsame : (Key.bool true).same (.string "true") = true := by decide +kernel
    have hother : ¬ (Key.bool true).same pair = true := by decide +kernel
    simp only [ofEntries, entries, Table.ofList, Table.insertAll, Table.insert, if_pos hsame, if_neg hother]
  have hread : ofDocument resolver document = .ok value := by
    have hledger : ofDocument resolver document = .ok (.object [("ledger", ofEntries entries),
        ("owners", .bigMap ⟨"17", some 2⟩),
        ("plain", .object [(Tag.int.name, .string "x"), ("other", .array [])])]) := rfl
    rw [hledger, hfilled]
  have hr : ∀ resolve ∈ resolver, resolve.Faithful := by
    intro resolve hs pointer found h
    cases Option.some.inj hs
    exact (Except.ok.inj h).symm
  exact ⟨hread, snapshot_reads_back resolver hr document value hread⟩

end Storage

end StorageQuery
