import StorageQuery.Proofs.Answer.AtHand
import StorageQuery.Proofs.Key.Encoding
set_option autoImplicit false

namespace StorageQuery

namespace Reading

theorem rows_whole (contents : Contents) (policy : WidePolicy) (entries : List (Key × Storage))
    {asked : List (Key × Storage)}
    (h : ∀ entry ∈ asked, Table.find? Key.same entry.1 entries = some entry.2) :
    (rows contents policy (.map entries) (asked.map fun entry => .whole entry.1)).map Answer.rowTrees =
      Storage.plainEntries policy asked := by
  induction asked with
  | nil => rfl
  | cons entry rest ih =>
    obtain ⟨key, value⟩ := entry
    obtain ⟨hfirst, hrest⟩ := List.forall_mem_cons.1 h
    have hrow : row contents policy (.map entries) (.whole key) = (value.toPlain policy).map .value := by
      rw [row_whole, Storage.find, hfirst]
    rw [List.map_cons, rows_cons, hrow, Storage.plainEntries, ← ih hrest]
    cases value.toPlain policy with
    | error e => rfl
    | ok json =>
      cases rows contents policy (.map entries) (rest.map fun entry => .whole entry.1) <;> rfl

theorem level_keys {contents : Contents} {policy : WidePolicy} {root container : Storage} {name : String}
    (requests : List Request) (hfield : root.field? name = some container) (hc : container.isContainer = true) :
    level contents policy root [.keys name requests] =
      (rows contents policy container requests).map fun found => [(name, .rows found)] := by
  rw [level_cons rfl, field_keys_entered hfield hc]
  cases rows contents policy container requests <;> rfl

end Reading

namespace Storage

theorem plainEntries_eq_ok_iff {policy : WidePolicy} {entries : List (Key × Storage)} {items : List Json} :
    plainEntries policy entries = .ok items ↔
      List.Forall₂ (fun entry item => ∃ value, entry.2.toPlain policy = .ok value ∧
        item = .object [("key", entry.1.toJson), ("value", value)]) entries items := by
  induction entries generalizing items with
  | nil => simp [plainEntries, eq_comm]
  | cons entry rest ih =>
    obtain ⟨key, value⟩ := entry
    simp only [plainEntries, Outcome.bind_eq_ok_iff, pure, Except.pure, Except.ok.injEq,
      List.forall₂_cons_left_iff, ← ih, plainEntry]
    constructor
    · rintro ⟨json, hjson, others, hothers, rfl⟩
      exact ⟨_, others, ⟨json, hjson, rfl⟩, hothers, rfl⟩
    · rintro ⟨-, others, ⟨json, hjson, rfl⟩, hothers, rfl⟩
      exact ⟨json, hjson, others, hothers, rfl⟩

theorem keys_of_plainEntries {policy : WidePolicy} {entries : List (Key × Storage)} {items : List Json}
    (hkeys : ∀ entry ∈ entries, entry.1.WellFormed) (h : plainEntries policy entries = .ok items) :
    items.map (fun item => (item.member? "key").bind Key.ofJson?) =
      entries.map fun entry => some entry.1 := by
  have hitems := plainEntries_eq_ok_iff.1 h
  clear h
  induction hitems with
  | nil => rfl
  | cons hfirst _ ih =>
    obtain ⟨hkey, hrest⟩ := List.forall_mem_cons.1 hkeys
    obtain ⟨value, -, rfl⟩ := hfirst
    rw [List.map_cons, List.map_cons, ih hrest, Json.member?, Table.find?_cons,
      if_pos (beq_self_eq_true _), Option.bind_some, Key.ofJson?_toJson _ hkey]

theorem text_row (key : Key) (value : Json) :
    (Json.object [("key", key.toJson), ("value", value)]).text =
      "\x7b\"key\":" ++ key.encoded ++ ",\"value\":" ++ value.text ++ "\x7d" := by
  have hkey : Json.quoted "key" = "\"key\"".toList := by decide
  have hvalue : Json.quoted "value" = "\"value\"".toList := by decide
  rw [← String.toList_inj]
  simp [Json.text, Json.compact, Json.compactMembers, Key.encoded_eq_text, hkey, hvalue]

theorem exists_rows_of_whole (remote : Remote) (policy : WidePolicy) {root : Storage} {name : String}
    {entries : List (Key × Storage)} (hfield : root.field? name = some (.map entries))
    (hdistinct : Table.Distinct Key.same entries) (hkeys : ∀ entry ∈ entries, entry.1.WellFormed) :
    ∃ found : Except StorageError (List (Key × RowResult)),
      (root.answer remote policy [.keys name (entries.map fun entry => .whole entry.1)]).outcome =
        found.map (fun rows => [(name, .rows rows)]) ∧
      found.map Answer.rowTrees = plainEntries policy entries := by
  have hhand : (Selector.keys name (entries.map fun entry => .whole entry.1)).AtHand root := by
    refine ⟨fun handle h => ?_, fun request hrequest => ?_⟩
    · rw [hfield] at h
      cases h
    · obtain ⟨entry, -, rfl⟩ := List.mem_map.1 hrequest
      rfl
  have hfound : ∀ entry ∈ entries, Table.find? Key.same entry.1 entries = some entry.2 :=
    fun entry hentry => Table.find?_eq_some_of_mem Key.lawful hdistinct hkeys (hkeys entry hentry) hentry
      (Key.same_refl _ (hkeys entry hentry))
  refine ⟨_, ?_, Reading.rows_whole remote.contents policy entries hfound⟩
  rw [outcome_answer_of_atHand (List.forall_mem_singleton.2 hhand)]
  exact Reading.level_keys _ hfield rfl

/-- A map that is asked for each of its keys, in its order, is answered with its plain document, and fails as
that does. The document has an object with key and value for each entry; the keys read back from them are
those of the map, no two of them the same. Keys are written there as they write themselves. -/
theorem answer_all_keys (remote : Remote) (policy : WidePolicy) (root : Storage) (name : String)
    (entries : List (Key × Storage)) (hfield : root.field? name = some (.map entries))
    (hdistinct : Table.Distinct Key.same entries) (hkeys : ∀ entry ∈ entries, entry.1.WellFormed) :
    let answered := (root.answer remote policy
      [.keys name (entries.map fun entry => .whole entry.1)]).outcome
    let plain := (Storage.map entries).toPlain policy
    (∀ e, answered = .error e ↔ plain = .error e) ∧
    (∀ json, plain = .ok json → ∃ rows, answered = .ok [(name, .rows rows)] ∧
      (Answer.fieldTree (.rows rows)).text = json.text ∧
      Answer.tree [(name, .rows rows)] = .object [(name, json)]) ∧
    (∀ json, plain = .ok json → ∃ items, json = .array items ∧
      List.Forall₂ (fun entry item => ∃ value, entry.2.toPlain policy = .ok value ∧
        item = .object [("key", entry.1.toJson), ("value", value)] ∧
        item.text = "\x7b\"key\":" ++ entry.1.encoded ++ ",\"value\":" ++ value.text ++ "\x7d") entries items ∧
      items.map (fun item => (item.member? "key").bind Key.ofJson?) =
        entries.map fun entry => some entry.1) ∧
    (Table.keys entries).Pairwise fun k l => k.same l = false ∧ l.same k = false := by
  intro answered plain
  obtain ⟨found, hanswered, hrows⟩ := exists_rows_of_whole remote policy hfield hdistinct hkeys
  have hplain : plain = (found.map Answer.rowTrees).map .array := by
    rw [hrows]
    rfl
  have hpairwise := Key.lawful.pairwise_keys hdistinct hkeys
  cases found with
  | error e =>
    have hrefused : plain = .error e := hplain
    have hfailed : answered = .error e := hanswered
    rw [hrefused, hfailed]
    exact ⟨fun _ => by rw [Except.error.injEq, Except.error.injEq], nofun, nofun, hpairwise⟩
  | ok rows =>
    have hok : plain = .ok (.array (Answer.rowTrees rows)) := hplain
    have hitems : plainEntries policy entries = .ok (Answer.rowTrees rows) := hrows.symm
    have hanswer : answered = .ok [(name, .rows rows)] := hanswered
    rw [hok, hanswer]
    refine ⟨fun _ => iff_of_false nofun nofun, ?_, ?_, hpairwise⟩
    · rintro json ⟨⟩
      exact ⟨rows, rfl, rfl, rfl⟩
    · rintro json ⟨⟩
      refine ⟨_, rfl, (plainEntries_eq_ok_iff.1 hitems).imp ?_, keys_of_plainEntries hkeys hitems⟩
      rintro entry item ⟨value, hvalue, rfl⟩
      exact ⟨value, hvalue, rfl, text_row entry.1 value⟩

/-- A record for a key, and behind the keys nothing, a further map and a big map. -/
theorem answer_all_keys_nested :
    let pair : Key := .composite [("b", .bool true), ("a", .composite [])]
    let inner : List (Key × Storage) := [(.string "x", .array [.null])]
    let entries : List (Key × Storage) :=
      [(pair, .null), (.string "true", .map inner), (.bool false, .bigMap ⟨"7", some 2⟩)]
    let root : Storage := .object [("m", .bool true), ("m.n", .map entries)]
    let remote : Remote := fun _ _ => ⟨3, .ok none⟩
    root.field? "m.n" = some (.map entries) ∧ Table.Distinct Key.same entries ∧
      (∀ entry ∈ entries, entry.1.WellFormed) ∧
      ∃ json rows, (Storage.map entries).toPlain .strict = .ok json ∧
        (root.answer remote .strict [.keys "m.n" (entries.map fun entry => .whole entry.1)]).outcome =
          .ok [("m.n", .rows rows)] ∧
        (Answer.fieldTree (.rows rows)).text = json.text := by
  intro pair inner entries root remote
  have hfield : root.field? "m.n" = some (.map entries) := rfl
  have hdistinct : Table.Distinct Key.same entries := by
    simp only [Table.Distinct, Table.keys, entries]
    decide +kernel
  have hkeys : ∀ entry ∈ entries, entry.1.WellFormed := by
    simp [entries, pair, Key.WellFormed, Key.WellFormedFields, Table.Distinct, Table.keys]
  obtain ⟨-, hanswer, -, -⟩ := answer_all_keys remote .strict root "m.n" entries hfield hdistinct hkeys
  obtain ⟨rows, hrows, htext, -⟩ := hanswer _ rfl
  exact ⟨hfield, hdistinct, hkeys, _, rows, rfl, hrows, htext⟩

end Storage

end StorageQuery
