import StorageQuery.Answer.Evaluation
import StorageQuery.Proofs.Storage.Document
set_option autoImplicit false

namespace StorageQuery.Storage

section
variable {resolver : Option Resolver} {run table : List (Key × Storage)}

variable (resolver) in
/-- An item of the document of a map gives the key and the value of an entry; without a value it stands for
null. -/
def Gives (item : Json) (entry : Key × Storage) : Prop :=
  ∃ members, item = .object members ∧
    (∃ key, Table.find? (· == ·) "key" members = some key ∧ Key.ofJson? key = some entry.1) ∧
    match Table.find? (· == ·) "value" members with
    | some value => ofDocument resolver value = .ok entry.2
    | none => entry.2 = .null

theorem entryValue_eq_ok_iff {members : List (String × Json)} {value : Storage} :
    entryValue resolver members = .ok value ↔
      match Table.find? (· == ·) "value" members with
      | some json => ofDocument resolver json = .ok value
      | none => value = .null := by
  induction members with
  | nil => simp [entryValue, eq_comm]
  | cons member rest ih =>
    obtain ⟨name, json⟩ := member
    rw [entryValue, Table.find?_cons]
    cases name == "value" with
    | true => rfl
    | false => exact ih

theorem entryOf_eq_ok_iff {item : Json} {entry : Key × Storage} :
    entryOf resolver item = .ok entry ↔ Gives resolver item entry := by
  cases item with
  | object members =>
    rw [entryOf_object_eq_ok_iff, entryValue_eq_ok_iff, Option.bind_eq_some_iff]
    exact ⟨fun h => ⟨members, rfl, h⟩, fun ⟨_, heq, h⟩ => Json.object.inj heq ▸ h⟩
  | _ =>
    constructor
    · rintro ⟨⟩
    · rintro ⟨_, ⟨⟩, _⟩

theorem entriesOf_eq_ok_iff {items : List Json} :
    entriesOf resolver items = .ok run ↔ List.Forall₂ (Gives resolver) items run := by
  induction items generalizing run with
  | nil => simp [entriesOf, eq_comm]
  | cons item rest ih =>
    rw [entriesOf_cons_eq_ok_iff, List.forall₂_cons_left_iff]
    simp only [entryOf_eq_ok_iff, ih, exists_and_left]

theorem ofDocument_map {items : List Json} (h : List.Forall₂ (Gives resolver) items run) :
    ofDocument resolver (Tag.map.wrap (.array items)) = .ok (ofEntries run) := by
  rw [ofDocument_wrap]
  simp only [ofMapBody, entriesOf_eq_ok_iff.2 h, Except.map]

theorem wellFormed_of_gives {items : List Json} (h : List.Forall₂ (Gives resolver) items run) :
    ∀ entry ∈ run, entry.1.WellFormed :=
  fun entry hentry => (legibleEntries_iff.1 (legible_entriesOf items (entriesOf_eq_ok_iff.2 h)) entry hentry).1

variable (resolver) in
/-- The table that a run of insertions leaves. It is begun with an empty map, with all entries of a list or
with those of a document, and goes on entry by entry. -/
inductive Filled : List (Key × Storage) → List (Key × Storage) → Prop where
  | empty : Filled [] []
  | collected {run table : List (Key × Storage)} (keys : ∀ entry ∈ run, entry.1.WellFormed)
    (collect : ofEntries run = .map table) : Filled run table
  | decoded {items : List Json} {run table : List (Key × Storage)}
    (entries : List.Forall₂ (Gives resolver) items run)
    (decode : ofDocument resolver (Tag.map.wrap (.array items)) = .ok (.map table)) : Filled run table
  | inserted {run before after : List (Key × Storage)} {key : Key} {value : Storage}
    {old : Option Storage} (rest : Filled run before) (whole : key.WellFormed)
    (insert : Table.exchange Key.same key value before = (old, after)) :
    Filled (run ++ [(key, value)]) after

/-- However a map was filled, its table is that of the whole run. -/
theorem Filled.eq_ofList (h : Filled resolver run table) :
    table = Table.ofList Key.same run ∧ ∀ entry ∈ run, entry.1.WellFormed := by
  induction h with
  | empty => exact ⟨rfl, List.forall_mem_nil _⟩
  | collected keys collect => exact ⟨(Storage.map.inj collect).symm, keys⟩
  | decoded entries decode =>
    rw [ofDocument_map entries] at decode
    exact ⟨(Storage.map.inj (Except.ok.inj decode)).symm, wellFormed_of_gives entries⟩
  | inserted rest hkey insert ih =>
    obtain ⟨rfl, hrun⟩ := ih
    rw [Table.exchange_eq] at insert
    refine ⟨?_, List.forall_mem_append.2 ⟨hrun, List.forall_mem_singleton.2 hkey⟩⟩
    rw [Table.ofList_concat]
    exact (Prod.mk.inj insert).2.symm

theorem Filled.wellFormed (h : Filled resolver run table) : ∀ entry ∈ table, entry.1.WellFormed := by
  obtain ⟨rfl, hrun⟩ := h.eq_ofList
  exact Table.forall_mem_keys_ofList hrun

theorem Filled.distinct (h : Filled resolver run table) : Table.Distinct Key.same table := by
  obtain ⟨rfl, -⟩ := h.eq_ofList
  exact Table.distinct_ofList _ run

theorem Filled.exists_same_of_mem (h : Filled resolver run table) {key : Key} (hkey : key ∈ Table.keys run) :
    ∃ entry ∈ table, entry.1.same key = true := by
  obtain ⟨rfl, hrun⟩ := h.eq_ofList
  obtain ⟨e, he, rfl⟩ := List.mem_map.1 hkey
  have hcontains : Table.contains Key.same e.1 (Table.ofList Key.same run) = true := by
    rw [Table.contains_ofList Key.lawful hrun (hrun e he), List.any_eq_true]
    exact ⟨e.1, hkey, Key.same_refl e.1 (hrun e he)⟩
  obtain ⟨k, hk, hsame⟩ := Table.contains_eq_true_iff.1 hcontains
  obtain ⟨entry, hentry, rfl⟩ := List.mem_map.1 hk
  exact ⟨entry, hentry, hsame⟩

theorem Filled.find?_of_same (h : Filled resolver run table) {key : Key} (hkey : key.WellFormed)
    {entry : Key × Storage} (hentry : entry ∈ table) (hsame : entry.1.same key = true) :
    Table.find? Key.same key table = some entry.2 :=
  Table.find?_eq_some_of_mem Key.lawful h.distinct h.wellFormed hkey hentry hsame

theorem Filled.first_last (h : Filled resolver run table) {entry : Key × Storage} (hentry : entry ∈ table) :
    ((run.filter fun e => e.1.same entry.1).head?).map Prod.fst = some entry.1 ∧
      ((run.filter fun e => e.1.same entry.1).getLast?).map Prod.snd = some entry.2 := by
  have hkey := h.wellFormed entry hentry
  have hself := h.find?_of_same hkey hentry (Key.same_refl _ hkey)
  obtain ⟨rfl, hrun⟩ := h.eq_ofList
  refine ⟨Table.head?_of_mem_keys Key.lawful hrun (List.mem_map_of_mem hentry), ?_⟩
  rwa [Table.find?_ofList Key.lawful hrun hkey] at hself

theorem foldl_exchange (run table : List (Key × Storage)) :
    run.foldl (fun table entry => (Table.exchange Key.same entry.1 entry.2 table).2) table =
      Table.insertAll Key.same table run := by
  induction run generalizing table with
  | nil => rfl
  | cons entry run ih => rw [List.foldl_cons, Table.exchange_eq, ih, Table.insertAll]

/-- A map that was filled by a run of insertions has one entry for each class of the keys of the run, in the
order in which the classes came up, under the first key of the class and with its last value. Every key of
a class finds this value, at once, and others find nothing; an insertion gives back what its key would have
found before. It does not matter which way the run was taken. -/
theorem filled_by_run (h : Filled resolver run table) :
    Table.keys table = (Table.keys run).eraseDupsBy Key.same ∧
    (Table.keys table).Pairwise (fun k l => k.same l = false ∧ l.same k = false) ∧
    (∀ key ∈ Table.keys run, ∃ entry ∈ table, entry.1.same key = true) ∧
    table.length = (Table.kin Key.same Key.WellFormed '' {k | k ∈ Table.keys run}).ncard ∧
    (∀ entry ∈ table,
      ((run.filter fun e => e.1.same entry.1).head?).map Prod.fst = some entry.1 ∧
      ((run.filter fun e => e.1.same entry.1).getLast?).map Prod.snd = some entry.2) ∧
    (∀ key : Key, key.WellFormed →
      (∀ entry ∈ table, entry.1.same key = true →
        Table.find? Key.same key table = some entry.2 ∧
        Table.contains Key.same key table = true ∧
        Evaluation.lookup (.map table) key = .ended (.ok (some entry.2))) ∧
      ((∀ entry ∈ table, entry.1.same key = false) →
        Table.find? Key.same key table = none ∧
        Table.contains Key.same key table = false ∧
        Evaluation.lookup (.map table) key = .ended (.ok none))) ∧
    (∀ (key : Key) (value : Storage), key.WellFormed → ∃ after,
      Table.exchange Key.same key value table = (Table.find? Key.same key table, after) ∧
        Filled resolver (run ++ [(key, value)]) after) ∧
    ofEntries run = .map table ∧
    run.foldl (fun table entry => (Table.exchange Key.same entry.1 entry.2 table).2) [] = table ∧
    ∀ items, List.Forall₂ (Gives resolver) items run →
      ofDocument resolver (Tag.map.wrap (.array items)) = .ok (.map table) := by
  obtain ⟨htable, hrun⟩ := h.eq_ofList
  refine ⟨?_, Key.lawful.pairwise_keys h.distinct h.wellFormed, fun key => h.exists_same_of_mem, ?_,
    fun entry => h.first_last, fun key hkey => ⟨?_, ?_⟩, ?_, ?_, ?_, ?_⟩
  · rw [htable, Table.keys_ofList Key.lawful hrun]
  · rw [htable, Table.length_ofList Key.lawful hrun]
  · intro entry hentry hsame
    have hfind := h.find?_of_same hkey hentry hsame
    exact ⟨hfind, by rw [Table.contains, hfind]; rfl, by rw [Evaluation.lookup, hfind]⟩
  · intro hother
    have hfind : Table.find? Key.same key table = none := Table.find?_eq_none_iff.2 fun k hk => by
      obtain ⟨entry, hentry, rfl⟩ := List.mem_map.1 hk
      exact hother entry hentry
    exact ⟨hfind, by rw [Table.contains, hfind]; rfl, by rw [Evaluation.lookup, hfind]⟩
  · intro key value hkey
    have hstep := Table.exchange_eq Key.same key value table
    exact ⟨_, hstep, .inserted h hkey hstep⟩
  · rw [ofEntries, ← htable]
  · rw [foldl_exchange, htable, Table.ofList]
  · intro items hitems
    rw [ofDocument_map hitems, ofEntries, ← htable]

end

/-- Two entries of a document, each written anew under another key of its class. -/
theorem filled_by_run_twice :
    let two : Number := .integer 2 (by decide)
    let pair : Key := .composite [("b", .number two), ("a", .string "x")]
    let other : Key := .composite [("a", .string "x"), ("b", .string "2")]
    let items : List Json := [.object [("value", .null), ("key", .number two)], .object [("key", pair.toJson)]]
    let run : List (Key × Storage) :=
      [(.number two, .null), (pair, .null), (.string "2", .bool true), (other, .bool false)]
    let table : List (Key × Storage) := [(.number two, .bool true), (pair, .bool false)]
    Filled none run table ∧ Table.keys table = (Table.keys run).eraseDupsBy Key.same ∧
      Table.find? Key.same other table = some (.bool false) ∧
      Table.find? Key.same (.string "3") table = none ∧
      ofDocument none (Tag.map.wrap (.array items)) = .ok (ofEntries (run.take 2)) ∧
      ofEntries run = .map table := by
  intro two pair other items run table
  have hother : other.WellFormed := by
    simp [other, Key.WellFormed, Key.WellFormedFields, Table.Distinct, Table.keys]
  have hentries : List.Forall₂ (Gives none) items (run.take 2) :=
    entriesOf_eq_ok_iff.1 rfl
  have hdistinct : Table.Distinct Key.same (run.take 2) := by
    simp only [run, List.take, Table.Distinct, Table.keys, List.map]
    decide +kernel
  have hdecode : ofDocument none (Tag.map.wrap (.array items)) = .ok (.map (run.take 2)) := by
    rw [ofDocument_map hentries, ofEntries, Table.ofList_of_distinct hdistinct]
  have hfilled : Filled none run table := by
    have hsecond : Filled none (run.take 2 ++ [(.string "2", .bool true)])
        [(.number two, .bool true), (pair, .null)] := by
      have htwo : (Key.number two).same (.string "2") = true := by decide +kernel
      have hinsert : Table.exchange Key.same (.string "2") (Storage.bool true) [(.number two, null), (pair, null)] =
          (some null, [(.number two, .bool true), (pair, null)]) := if_pos htwo
      exact .inserted (.decoded hentries hdecode) trivial hinsert
    have htwo : ¬ (Key.number two).same other = true := by decide +kernel
    have hpair : pair.same other = true := by decide +kernel
    have hinsert : Table.exchange Key.same other (Storage.bool false) [(.number two, .bool true), (pair, null)] =
        (some null, table) := by
      rw [Table.exchange, if_neg htwo, Table.exchange, if_pos hpair]
    exact .inserted hsecond hother hinsert
  obtain ⟨hkeys, -, -, -, -, hfind, -, hall, -, -⟩ := filled_by_run hfilled
  refine ⟨hfilled, hkeys, ?_, ?_, ofDocument_map hentries, hall⟩
  · exact ((hfind other hother).1 (pair, .bool false) (.tail _ (.head _)) (by decide +kernel)).1
  · refine ((hfind (.string "3") trivial).2 fun entry hentry => ?_).1
    simp only [table, List.mem_cons, List.not_mem_nil, or_false] at hentry
    rcases hentry with rfl | rfl <;> decide +kernel

end StorageQuery.Storage
