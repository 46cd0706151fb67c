import StorageQuery.Proofs.Key.Equality
import StorageQuery.Proofs.Storage.Within
set_option autoImplicit false

namespace StorageQuery

theorem Double.same_iff {x y : Double} :
    x.same y = true ↔ x.magnitude = y.magnitude ∧ (x.negative = y.negative ∨ x.magnitude = 0) := by
  simp [Double.same]

namespace Number

theorem same_refl (n : Number) : n.same n = true := by
  cases n with
  | integer n _ => exact beq_self_eq_true n
  | real x => exact Double.same_iff.2 ⟨rfl, .inl rfl⟩

theorem same_symm {n m : Number} (h : n.same m = true) : m.same n = true := by
  cases n with
  | integer n _ =>
    cases m with
    | integer m _ => exact beq_iff_eq.2 (beq_iff_eq.1 h).symm
    | real _ => cases h
  | real x =>
    cases m with
    | integer _ _ => cases h
    | real y =>
      obtain ⟨hmagnitude, hsign⟩ := Double.same_iff.1 h
      exact Double.same_iff.2 ⟨hmagnitude.symm, hsign.imp Eq.symm hmagnitude.symm.trans⟩

theorem same_trans {n m k : Number} (h : n.same m = true) (h' : m.same k = true) : n.same k = true := by
  cases n with
  | integer n _ =>
    cases m with
    | integer m _ =>
      cases k with
      | integer k _ => exact beq_iff_eq.2 ((beq_iff_eq.1 h).trans (beq_iff_eq.1 h'))
      | real _ => cases h'
    | real _ => cases h
  | real x =>
    cases m with
    | integer _ _ => cases h
    | real y =>
      cases k with
      | integer _ _ => cases h'
      | real z =>
        obtain ⟨hmagnitude, hsign⟩ := Double.same_iff.1 h
        obtain ⟨hmagnitude', hsign'⟩ := Double.same_iff.1 h'
        refine Double.same_iff.2 ⟨hmagnitude.trans hmagnitude', ?_⟩
        rcases hsign with hsign | hzero
        · exact hsign'.imp hsign.trans hmagnitude.trans
        · exact .inr hzero

end Number

namespace Storage

theorem sameItems_iff {as bs : List Storage} :
    sameItems as bs = true ↔ List.Forall₂ (fun a b => a.same b = true) as bs := by
  induction as generalizing bs with
  | nil => cases bs <;> simp [sameItems]
  | cons a as ih => cases bs <;> simp [sameItems, ih]

theorem sameFields_iff {as bs : List (String × Storage)} :
    sameFields as bs = true ↔
      ∀ field ∈ as, ∃ b, Table.find? (· == ·) field.1 bs = some b ∧ field.2.same b = true := by
  induction as with
  | nil => simp [sameFields]
  | cons field rest ih =>
    obtain ⟨name, a⟩ := field
    rw [sameFields, Bool.and_eq_true, ih, List.forall_mem_cons]
    cases Table.find? (· == ·) name bs <;> simp

abbrev EntriesAlike : List (Key × Storage) → List (Key × Storage) → Prop :=
  List.Forall₂ fun e f => e.1.same f.1 = true ∧ e.2.same f.2 = true

theorem sameEntries_iff {as bs : List (Key × Storage)} : sameEntries as bs = true ↔ EntriesAlike as bs := by
  induction as generalizing bs with
  | nil => cases bs <;> simp [sameEntries]
  | cons e as ih =>
    cases bs with
    | nil => simp [sameEntries]
    | cons f bs => simp [sameEntries, ih, EntriesAlike]

/-- Values of one kind with the same in them. -/
inductive Alike : Storage → Storage → Prop where
  | null : Alike .null .null
  | bool (b : Bool) : Alike (.bool b) (.bool b)
  | number {n m : Number} (h : n.same m = true) : Alike (.number n) (.number m)
  | bigInt (n : Int) : Alike (.bigInt n) (.bigInt n)
  | string (s : String) : Alike (.string s) (.string s)
  | bytes (bytes : List UInt8) : Alike (.bytes bytes) (.bytes bytes)
  | array {as bs : List Storage} (h : List.Forall₂ (fun a b => a.same b = true) as bs) :
    Alike (.array as) (.array bs)
  | object {as bs : List (String × Storage)} (h : Table.Paired (fun a b => a.same b = true) as bs) :
    Alike (.object as) (.object bs)
  | map {as bs : List (Key × Storage)} (h : EntriesAlike as bs) : Alike (.map as) (.map bs)
  | bigMap {a b : BigMap} (h : a.pointer = b.pointer) : Alike (.bigMap a) (.bigMap b)

theorem same_object {as bs : List (String × Storage)} :
    (object as).same (object bs) = true ↔ Table.Paired (fun a b => a.same b = true) as bs := by
  rw [same, Bool.and_eq_true, beq_iff_eq, sameFields_iff, Table.Paired]

theorem Alike.same {a b : Storage} (h : a.Alike b) : a.same b = true := by
  cases h with
  | null => rfl
  | bool b => exact beq_self_eq_true b
  | number h => exact h
  | bigInt n => exact beq_self_eq_true n
  | string s => exact beq_self_eq_true s
  | bytes bytes => exact beq_self_eq_true bytes
  | array h => exact sameItems_iff.2 h
  | object h => exact same_object.2 h
  | map h => exact sameEntries_iff.2 h
  | bigMap h => exact beq_iff_eq.2 h

theorem alike_of_same {a b : Storage} (h : a.same b = true) : a.Alike b := by
  cases a with
  | null =>
    cases b with
    | null => exact .null
    | _ => cases h
  | bool a =>
    cases b with
    | bool b => exact eq_of_beq h ▸ .bool a
    | _ => cases h
  | number n =>
    cases b with
    | number m => exact .number h
    | _ => cases h
  | bigInt n =>
    cases b with
    | bigInt m => exact eq_of_beq h ▸ .bigInt n
    | _ => cases h
  | string s =>
    cases b with
    | string t => exact eq_of_beq h ▸ .string s
    | _ => cases h
  | bytes as =>
    cases b with
    | bytes bs => exact eq_of_beq h ▸ .bytes as
    | _ => cases h
  | array as =>
    cases b with
    | array bs => exact .array (sameItems_iff.1 h)
    | _ => cases h
  | object as =>
    cases b with
    | object bs => exact .object (same_object.1 h)
    | _ => cases h
  | map as =>
    cases b with
    | map bs => exact .map (sameEntries_iff.1 h)
    | _ => cases h
  | bigMap handle =>
    cases b with
    | bigMap handle' => exact .bigMap (eq_of_beq h)
    | _ => cases h

theorem same_iff_alike {a b : Storage} : a.same b = true ↔ a.Alike b := ⟨alike_of_same, Alike.same⟩

theorem same_refl (value : Storage) (hw : value.WellFormed) : value.same value = true := by
  induction value using parts_induction with
  | h value ih =>
    rw [same_iff_alike]
    cases value with
    | null => exact .null
    | bool b => exact .bool b
    | number n => exact .number n.same_refl
    | bigInt n => exact .bigInt n
    | string s => exact .string s
    | bytes bytes => exact .bytes bytes
    | array items =>
      exact .array (List.forall₂_same.2 fun item hm => ih item hm (wellFormedItems_iff.1 hw item hm))
    | object fields =>
      exact .object (Table.Paired.refl hw.1 fun field hm =>
        ih field.2 (List.mem_map_of_mem hm) (wellFormedFields_iff.1 hw.2 field hm))
    | map entries =>
      refine .map (List.forall₂_same.2 fun entry hm => ?_)
      obtain ⟨hkey, hvalue⟩ := wellFormedEntries_iff.1 hw.2 entry hm
      exact ⟨Key.same_refl entry.1 hkey, ih entry.2 (List.mem_map_of_mem hm) hvalue⟩
    | bigMap handle => exact .bigMap rfl

theorem same_symm (a b : Storage) (ha : a.WellFormed) (hb : b.WellFormed) (hab : a.same b = true) :
    b.same a = true := by
  induction a using parts_induction generalizing b with
  | h a ih =>
    rw [same_iff_alike]
    cases alike_of_same hab with
    | null => exact .null
    | bool b => exact .bool b
    | number h => exact .number (Number.same_symm h)
    | bigInt n => exact .bigInt n
    | string s => exact .string s
    | bytes bytes => exact .bytes bytes
    | array h =>
      refine .array (List.Forall₂.flip (forall₂_imp_of_mem h fun a hma b hmb hsame => ?_))
      exact ih a hma b (wellFormedItems_iff.1 ha a hma) (wellFormedItems_iff.1 hb b hmb) hsame
    | object h =>
      refine .object ((h.flip ha.1 hb.1).imp_of_mem fun b hmb a hma hsame => ?_)
      exact ih a.2 (List.mem_map_of_mem hma) b.2 (wellFormedFields_iff.1 ha.2 a hma)
        (wellFormedFields_iff.1 hb.2 b hmb) hsame
    | map h =>
      refine .map (List.Forall₂.flip (forall₂_imp_of_mem h fun a hma b hmb hsame => ?_))
      obtain ⟨hkey, hvalue⟩ := wellFormedEntries_iff.1 ha.2 a hma
      obtain ⟨hkey', hvalue'⟩ := wellFormedEntries_iff.1 hb.2 b hmb
      exact ⟨Key.same_symm a.1 b.1 hkey hkey' hsame.1,
        ih a.2 (List.mem_map_of_mem hma) b.2 hvalue hvalue' hsame.2⟩
    | bigMap h => exact .bigMap h.symm

/-- No names and no keys need be different for this. -/
theorem same_trans (a b c : Storage) (hab : a.same b = true) (hbc : b.same c = true) : a.same c = true := by
  induction a using parts_induction generalizing b c with
  | h a ih =>
    rw [same_iff_alike]
    cases alike_of_same hab with
    | null => exact alike_of_same hbc
    | bool b => exact alike_of_same hbc
    | bigInt n => exact alike_of_same hbc
    | string s => exact alike_of_same hbc
    | bytes bytes => exact alike_of_same hbc
    | number h =>
      cases alike_of_same hbc with
      | number h' => exact .number (Number.same_trans h h')
    | array h =>
      cases alike_of_same hbc with
      | array h' =>
        exact .array (forall₂_imp_of_mem (forall₂_comp h h') fun a hma c _ ⟨b, hsame, hsame'⟩ =>
          ih a hma b c hsame hsame')
    | object h =>
      cases alike_of_same hbc with
      | object h' =>
        exact .object ((h.comp h').imp_of_mem fun a hma c _ ⟨b, hsame, hsame'⟩ =>
          ih a.2 (List.mem_map_of_mem hma) b c.2 hsame hsame')
    | map h =>
      cases alike_of_same hbc with
      | map h' =>
        exact .map (forall₂_imp_of_mem (forall₂_comp h h') fun a hma c _ ⟨b, hsame, hsame'⟩ =>
          ⟨Key.same_trans a.1 b.1 c.1 hsame.1 hsame'.1,
            ih a.2 (List.mem_map_of_mem hma) b.2 c.2 hsame.2 hsame'.2⟩)
    | bigMap h =>
      cases alike_of_same hbc with
      | bigMap h' => exact .bigMap (h.trans h')

/-- There is nothing in both places, or the same. -/
abbrev Agree : Option Storage → Option Storage → Prop := Option.Rel fun a b => a.same b = true

variable {a b : Storage}

theorem agree_field? (ha : a.WellFormed) (hab : a.same b = true) (name : String) :
    Agree (a.field? name) (b.field? name) := by
  cases alike_of_same hab with
  | object h => exact h.find? ha.1 name
  | _ => exact .none

theorem agree_child? (ha : a.WellFormed) (hab : a.same b = true) (component : String) :
    Agree (a.child? component) (b.child? component) := by
  cases alike_of_same hab with
  | object h => exact h.find? ha.1 component
  | array h =>
    rw [child?, child?]
    cases Path.index? component with
    | none => exact .none
    | some i => exact forall₂_getElem? h i
  | _ => exact .none

theorem wellFormed_of_child? {value : Storage} (ha : a.WellFormed) {component : String}
    (h : a.child? component = some value) : value.WellFormed := by
  cases a with
  | object fields =>
    obtain ⟨name, -, hm⟩ := Table.mem_of_find? h
    exact wellFormedFields_iff.1 ha.2 _ hm
  | array items =>
    obtain ⟨i, -, hi⟩ := Option.bind_eq_some_iff.1 h
    exact wellFormedItems_iff.1 ha value (List.mem_of_getElem? hi)
  | _ => cases h

theorem agree_descend? (ha : a.WellFormed) (hab : a.same b = true) (components : List String) :
    Agree (a.descend? components) (b.descend? components) := by
  induction components generalizing a b with
  | nil => exact .some hab
  | cons component rest ih =>
    have hchild := agree_child? ha hab component
    rw [descend?, descend?]
    generalize hvalue : a.child? component = value at hchild
    generalize b.child? component = value' at hchild
    cases hchild with
    | none => exact .none
    | some hsame => exact ih (wellFormed_of_child? ha hvalue) hsame

theorem agree_get? (ha : a.WellFormed) (hab : a.same b = true) (path : Path) :
    Agree (a.get? path) (b.get? path) := by
  have hdescend := agree_descend? ha hab path.components
  rw [get?, get?]
  by_cases hlong : 1 < path.components.length
  · rw [if_pos hlong, if_pos hlong]
    have hfield := agree_field? ha hab path.text
    generalize a.field? path.text = value at hfield
    generalize b.field? path.text = value' at hfield
    cases hfield with
    | none => exact hdescend
    | some hsame => exact .some hsame
  · rw [if_neg hlong, if_neg hlong]
    exact hdescend

theorem agree_find? {as bs : List (Key × Storage)} (ha : WellFormedEntries as) (hb : WellFormedEntries bs)
    (h : EntriesAlike as bs) {key : Key} (hkey : key.WellFormed) :
    Agree (Table.find? Key.same key as) (Table.find? Key.same key bs) := by
  induction h with
  | nil => exact .none
  | @cons e f as bs hsame _ ih =>
    obtain ⟨k, v⟩ := e
    obtain ⟨l, w⟩ := f
    have htest : k.same key = l.same key := Key.lawful.congr ha.1 hb.1 hkey hsame.1
    rw [Table.find?_cons, Table.find?_cons, htest]
    split
    · exact .some hsame.2
    · exact ih ha.2.2 hb.2.2

/-- Equality of storages is an equivalence: objects are compared name by name, maps entry by entry, and big maps
by their pointers. Storages that are the same are of one kind, and whatever is read in both, by name, by path or
by key, there is nothing in both places or the same. -/
theorem same_reads_alike (a b c : Storage) (ha : a.WellFormed) (hb : b.WellFormed) :
    a.same a = true ∧
    (a.same b = true → b.same a = true) ∧
    (a.same b = true → b.same c = true → a.same c = true) ∧
    (∀ as bs, a = .object as → b = .object bs →
      (a.same b = true ↔
        (∀ name, name ∈ Table.keys as ↔ name ∈ Table.keys bs) ∧
          ∀ name v w, (name, v) ∈ as → (name, w) ∈ bs → v.same w = true)) ∧
    (∀ as bs, a = .map as → b = .map bs → (a.same b = true ↔ EntriesAlike as bs)) ∧
    (∀ handle handle', a = .bigMap handle → b = .bigMap handle' →
      (a.same b = true ↔ handle.pointer = handle'.pointer)) ∧
    (a.same b = true →
      (∀ name, Agree (a.field? name) (b.field? name)) ∧
      (∀ path, Agree (a.get? path) (b.get? path)) ∧
      a.isNull = b.isNull ∧ a.isContainer = b.isContainer ∧ a.kind = b.kind ∧
      ∀ as bs, a = .map as → b = .map bs → ∀ key : Key, key.WellFormed →
        Agree (Table.find? Key.same key as) (Table.find? Key.same key bs)) := by
  refine ⟨same_refl a ha, same_symm a b ha hb, same_trans a b c, ?_, ?_, ?_, fun h => ?_⟩
  · rintro as bs rfl rfl
    exact same_object.trans (Table.paired_iff ha.1 hb.1)
  · rintro as bs rfl rfl
    exact sameEntries_iff
  · rintro handle handle' rfl rfl
    exact beq_iff_eq
  · have hkind : a.isNull = b.isNull ∧ a.isContainer = b.isContainer ∧ a.kind = b.kind := by
      cases alike_of_same h <;> exact ⟨rfl, rfl, rfl⟩
    refine ⟨agree_field? ha h, agree_get? ha h, hkind.1, hkind.2.1, hkind.2.2, ?_⟩
    rintro as bs rfl rfl key hkey
    exact agree_find? ha.2 hb.2 (sameEntries_iff.1 h) hkey

/-- Objects in two orders, with a dotted name, both zeros, a map under keys of two kinds, and a big map whose
size is known once. -/
theorem same_reads_alike_reordered :
    let entries : List (Key × Storage) := [(.string "5", .number (.real (.zero true)))]
    let entries' : List (Key × Storage) :=
      [(.number (.integer 5 (by decide)), .number (.real (.zero false)))]
    let a : Storage := .object [("a.b", .bigMap ⟨"7", some 1⟩), ("l", .array [.map entries, .null])]
    let b : Storage := .object [("l", .array [.map entries', .null]), ("a.b", .bigMap ⟨"7", none⟩)]
    a.WellFormed ∧ b.WellFormed ∧ a.same b = true ∧ b.same a = true ∧ a.kind = b.kind ∧
      Agree (a.get? ⟨"a.b"⟩) (b.get? ⟨"a.b"⟩) ∧ Agree (a.get? ⟨"l.0"⟩) (b.get? ⟨"l.0"⟩) ∧
      Agree (Table.find? Key.same (.string "5") entries) (Table.find? Key.same (.string "5") entries') := by
  intro entries entries' a b
  have hentries : (map entries).WellFormed := by
    simp [entries, WellFormed, WellFormedEntries, Table.Distinct, Table.keys, Key.WellFormed]
  have hentries' : (map entries').WellFormed := by
    simp [entries', WellFormed, WellFormedEntries, Table.Distinct, Table.keys, Key.WellFormed]
  have ha : a.WellFormed := by
    simpa [a, WellFormed, WellFormedItems, WellFormedFields, Table.Distinct, Table.keys] using hentries
  have hb : b.WellFormed := by
    simpa [b, WellFormed, WellFormedItems, WellFormedFields, Table.Distinct, Table.keys] using hentries'
  have hsame : a.same b = true := by decide +kernel
  obtain ⟨-, hsymm, -, -, -, -, hreads⟩ := same_reads_alike a b a ha hb
  obtain ⟨-, hget, -, -, hkind, -⟩ := hreads hsame
  obtain ⟨-, -, -, -, -, -, hmaps⟩ := same_reads_alike (.map entries) (.map entries') .null hentries hentries'
  obtain ⟨-, -, -, -, -, hfind⟩ := hmaps (by decide +kernel)
  exact ⟨ha, hb, hsame, hsymm hsame, hkind, hget ⟨"a.b"⟩, hget ⟨"l.0"⟩,
    hfind entries entries' rfl rfl (.string "5") trivial⟩

end Storage

end StorageQuery
