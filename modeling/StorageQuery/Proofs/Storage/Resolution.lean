import StorageQuery.Proofs.Storage.Equality
import StorageQuery.Proofs.Text.Decimal
/-!
Where paths lead. The components of a path are what stands between the dots of its text. If there are several
and the value has a field under the whole text, the path leads to that field; otherwise it leads where a chain
of steps does, one for each component, each from an object to a field or from a list to an item.
-/

set_option autoImplicit false

namespace StorageQuery

theorem Text.not_mem_of_mem_split {mark : Char} {cs part : List Char} (h : part ∈ split mark cs) :
    mark ∉ part := by
  induction cs generalizing part with
  | nil =>
    cases List.mem_singleton.1 h
    exact List.not_mem_nil
  | cons c cs ih =>
    rw [split] at h
    split at h
    · rcases List.mem_cons.1 h with rfl | h
      · exact List.not_mem_nil
      · exact ih h
    · rename_i hc
      split at h
      · cases List.mem_singleton.1 h
        simpa using Ne.symm hc
      · rename_i first parts hs
        rcases List.mem_cons.1 h with rfl | h
        · have hfirst : mark ∉ first := ih (by rw [hs]; exact List.mem_cons_self)
          rintro (_ | ⟨_, hm⟩)
          · exact hc rfl
          · exact hfirst hm
        · exact ih (by rw [hs]; exact List.mem_cons_of_mem _ h)

theorem Text.join_eq_intercalate (mark : Char) (parts : List (List Char)) :
    join mark parts = [mark].intercalate parts := by
  fun_induction join with
  | case1 => rfl
  | case2 part => rw [List.intercalate_singleton]
  | case3 part parts hmore ih =>
    rw [List.intercalate_cons_of_ne_nil hmore, ih, List.append_assoc]
    rfl

namespace Path

theorem not_mem_of_mem_components {path : Path} {component : String} (h : component ∈ path.components) :
    '.' ∉ component.toList := by
  rw [components] at h
  split at h
  · cases h
  · obtain ⟨part, hpart, rfl⟩ := List.mem_map.1 h
    rw [String.toList_ofList]
    exact Text.not_mem_of_mem_split hpart

theorem intercalate_components (path : Path) : ".".intercalate path.components = path.text := by
  rw [components]
  split
  · rename_i hempty
    rw [hempty]
    rfl
  · have hparts : String.toList ∘ String.ofList = id := funext fun _ => String.toList_ofList
    have hjoin := Text.join_split '.' path.text.toList
    rw [Text.join_eq_intercalate] at hjoin
    rw [← String.toList_inj, String.toList_intercalate, List.map_map, hparts, List.map_id]
    exact hjoin

theorem isEmpty_iff (path : Path) : path.isEmpty = true ↔ path.text = "" := by
  rw [isEmpty, List.isEmpty_iff, components]
  split
  · rename_i hempty
    exact iff_of_true rfl hempty
  · rename_i htext
    exact iff_of_false (fun hnil => Text.split_ne_nil _ _ (List.map_eq_nil_iff.1 hnil)) htext

/-- The component is the numeral of a place that 64 bits can tell, perhaps with zeros and a plus sign in
front. -/
def Denotes (component : String) (i : Nat) : Prop :=
  i < 2 ^ 64 ∧ ∃ sign zeros, (sign = [] ∨ sign = ['+']) ∧
    component.toList = sign ++ (List.replicate zeros '0' ++ Decimal.digits i)

theorem index?_eq_some_iff {component : String} {i : Nat} : index? component = some i ↔ Denotes component i :=
  Decimal.readBelow?_eq_some_iff

end Path

namespace Storage

/-- One component of a path, from an object to the field of that name, or from a list to the item at that place.
There is no step from anything else. -/
inductive Step (component : String) : Storage → Storage → Prop where
  | field {fields : List (String × Storage)} {value : Storage} (member : (component, value) ∈ fields) :
    Step component (.object fields) value
  | item {items : List Storage} {i : Nat} {value : Storage} (denotes : Path.Denotes component i)
    (found : items[i]? = some value) : Step component (.array items) value

inductive Leads : Storage → List String → Storage → Prop where
  | stay (value : Storage) : Leads value [] value
  | step {root next value : Storage} {component : String} {rest : List String} (first : root.Step component next)
    (others : Leads next rest value) : Leads root (component :: rest) value

/-- The value is a field of the object, under the whole text of a path with several components. -/
inductive Direct (path : Path) : Storage → Storage → Prop where
  | field {fields : List (String × Storage)} {value : Storage} (several : 2 ≤ path.components.length)
    (member : (path.text, value) ∈ fields) : Direct path (.object fields) value

/-- The path leads to the value, through the field that it names as a whole, or in steps if there is none. -/
def Resolves (root : Storage) (path : Path) (value : Storage) : Prop :=
  root.Direct path value ∨ (¬ ∃ field, root.Direct path field) ∧ root.Leads path.components value

variable {root value : Storage}

theorem Step.from_plain {component : String} (h : root.Step component value) :
    (∃ fields, root = .object fields) ∨ ∃ items, root = .array items := by
  cases h with
  | field => exact .inl ⟨_, rfl⟩
  | item => exact .inr ⟨_, rfl⟩

theorem Direct.mem {path : Path} {fields : List (String × Storage)} (h : Direct path (.object fields) value) :
    (path.text, value) ∈ fields := by
  cases h with
  | field _ member => exact member

theorem leads_append_iff {before after : List String} :
    root.Leads (before ++ after) value ↔ ∃ inner, root.Leads before inner ∧ inner.Leads after value := by
  induction before generalizing root with
  | nil =>
    constructor
    · intro h
      exact ⟨root, .stay root, h⟩
    · rintro ⟨inner, hstay, h⟩
      cases hstay
      exact h
  | cons component before ih =>
    constructor
    · intro h
      cases h with
      | step first others =>
        obtain ⟨inner, hbefore, hafter⟩ := ih.1 others
        exact ⟨inner, .step first hbefore, hafter⟩
    · rintro ⟨inner, hbefore, hafter⟩
      cases hbefore with
      | step first others => exact .step first (ih.2 ⟨inner, others, hafter⟩)

theorem field?_eq_some_iff (hroot : root.WellFormed) {name : String} :
    root.field? name = some value ↔ ∃ fields, root = .object fields ∧ (name, value) ∈ fields := by
  cases root with
  | object fields =>
    rw [field?, Table.find?_eq_some_iff_mem hroot.1]
    simp
  | _ => exact iff_of_false (by simp [field?]) (by simp)

theorem child?_eq_some_iff_step (hroot : root.WellFormed) {component : String} :
    root.child? component = some value ↔ root.Step component value := by
  cases root with
  | object fields =>
    rw [child?, Table.find?_eq_some_iff_mem hroot.1]
    constructor
    · exact .field
    · rintro ⟨hm⟩
      exact hm
  | array items =>
    rw [child?, Option.bind_eq_some_iff]
    constructor
    · rintro ⟨i, hindex, hfound⟩
      exact .item (Path.index?_eq_some_iff.1 hindex) hfound
    · intro h
      cases h with
      | item denotes found => exact ⟨_, Path.index?_eq_some_iff.2 denotes, found⟩
  | _ =>
    refine iff_of_false (by simp [child?]) ?_
    rintro ⟨⟩

theorem descend?_eq_some_iff_leads (hroot : root.WellFormed) {components : List String} :
    root.descend? components = some value ↔ root.Leads components value := by
  induction components generalizing root with
  | nil =>
    rw [descend?, Option.some.injEq]
    constructor
    · rintro rfl
      exact .stay root
    · intro h
      cases h
      rfl
  | cons component rest ih =>
    rw [descend?, Option.bind_eq_some_iff]
    constructor
    · rintro ⟨next, hchild, hrest⟩
      exact .step ((child?_eq_some_iff_step hroot).1 hchild) ((ih (wellFormed_of_child? hroot hchild)).1 hrest)
    · intro h
      cases h with
      | step first others =>
        have hchild := (child?_eq_some_iff_step hroot).2 first
        exact ⟨_, hchild, (ih (wellFormed_of_child? hroot hchild)).2 others⟩

theorem Leads.unique (hroot : root.WellFormed) {components : List String} {other : Storage}
    (h : root.Leads components value) (h' : root.Leads components other) : value = other := by
  rw [← descend?_eq_some_iff_leads hroot] at h h'
  exact Option.some.inj (h.symm.trans h')

theorem direct_iff (hroot : root.WellFormed) {path : Path} :
    root.Direct path value ↔ (if 1 < path.components.length then root.field? path.text else none) = some value := by
  constructor
  · rintro ⟨several, member⟩
    have hfield := (field?_eq_some_iff hroot).2 ⟨_, rfl, member⟩
    rwa [if_pos (show 1 < path.components.length from several)]
  · intro h
    split at h
    · rename_i hseveral
      obtain ⟨fields, rfl, hm⟩ := (field?_eq_some_iff hroot).1 h
      exact .field hseveral hm
    · cases h

theorem get?_eq_some_iff_resolves (hroot : root.WellFormed) {path : Path} :
    root.get? path = some value ↔ root.Resolves path value := by
  rw [get?, Resolves]
  simp only [direct_iff hroot]
  cases (if 1 < path.components.length then root.field? path.text else none) with
  | none => simp [descend?_eq_some_iff_leads hroot]
  | some field => simp

/-- Behind the first of the components there is no field under a whole text: whatever fields a value on the way
has, the path goes on from it step by step. -/
theorem get?_eq_some_iff_leads_on (hroot : root.WellFormed) {path : Path} {before after : List String}
    {inner : Storage} (hpath : path.components = before ++ after) (hnone : ¬ ∃ field, root.Direct path field)
    (hinner : root.Leads before inner) : root.get? path = some value ↔ inner.Leads after value := by
  rw [get?_eq_some_iff_resolves hroot, Resolves, hpath, leads_append_iff]
  constructor
  · rintro (hdirect | ⟨-, other, hother, h⟩)
    · exact absurd ⟨value, hdirect⟩ hnone
    · rwa [hinner.unique hroot hother]
  · intro h
    exact .inr ⟨hnone, inner, hinner, h⟩

/-- The components of a path are what stands between its dots. The path leads to the field of an object that its
whole text names, if it has several components, and without such a field to where one step for each component
leads: to a field of that name or to the item at that place. It leads to one value at most. It does not go on
from a scalar, a map or a big map, and a field under the text that is left counts at the start alone. -/
theorem path_resolves (path : Path) :
    (∀ component ∈ path.components, '.' ∉ component.toList) ∧
    ".".intercalate path.components = path.text ∧
    (path.isEmpty = true ↔ path.text = "") ∧
    ∀ root : Storage, root.WellFormed →
      (∀ value, root.get? path = some value ↔ root.Resolves path value) ∧
      (∀ value other, root.Resolves path value → root.Resolves path other → value = other) ∧
      (∀ before component after inner, path.components = before ++ component :: after →
        (¬ ∃ field, root.Direct path field) → root.Leads before inner →
          (∀ value, root.get? path = some value ↔ inner.Leads (component :: after) value) ∧
          ((∀ fields, inner ≠ .object fields) → (∀ items, inner ≠ .array items) → root.get? path = none)) := by
  refine ⟨fun _ => Path.not_mem_of_mem_components, path.intercalate_components, path.isEmpty_iff,
    fun root hroot => ⟨fun value => get?_eq_some_iff_resolves hroot, fun value other h h' => ?_,
      fun before component after inner hpath hnone hinner => ⟨fun value => ?_, fun hobject harray => ?_⟩⟩⟩
  · rw [← get?_eq_some_iff_resolves hroot] at h h'
    exact Option.some.inj (h.symm.trans h')
  · exact get?_eq_some_iff_leads_on hroot hpath hnone hinner
  · refine Option.eq_none_iff_forall_ne_some.2 fun value h => ?_
    cases (get?_eq_some_iff_leads_on hroot hpath hnone hinner).1 h with
    | step first others =>
      rcases first.from_plain with ⟨fields, hfields⟩ | ⟨items, hitems⟩
      · exact hobject fields hfields
      · exact harray items hitems

/-- A field under a whole text beside the one that steps lead to, such a field further inside, a place with a sign
and a zero in front, and a path that goes on from a map. -/
theorem path_resolves_shadowed :
    let inner : Storage := .object [("c", .string "x")]
    let ledger : Storage := .map [(.string "k", .bool true)]
    let root : Storage := .object [("a", .object [("b.c", .null), ("b", inner)]), ("a.b", .bool false),
      ("l", .array [.null, ledger])]
    root.WellFormed ∧
      root.Resolves ⟨"a.b"⟩ (.bool false) ∧ root.Leads ["a", "b"] inner ∧ ¬ root.Resolves ⟨"a.b"⟩ inner ∧
      root.Resolves ⟨"a.b.c"⟩ (.string "x") ∧ ¬ root.Resolves ⟨"a.b.c"⟩ .null ∧
      root.Resolves ⟨"l.+01"⟩ ledger ∧ root.Leads ["l", "+01"] ledger ∧ root.get? ⟨"l.+01.k"⟩ = none := by
  intro inner ledger root
  have hroot : root.WellFormed := by
    simp [root, inner, ledger, WellFormed, WellFormedItems, WellFormedFields, WellFormedEntries, Table.Distinct,
      Table.keys, Key.WellFormed]
  have hnamed : root.get? ⟨"a.b"⟩ = some (.bool false) := rfl
  have hdeep : root.get? ⟨"a.b.c"⟩ = some (.string "x") := rfl
  have hitem : root.get? ⟨"l.+01"⟩ = some ledger := rfl
  have hinner : root.Leads ["a", "b"] inner :=
    .step (.field (.head _)) (.step (.field (.tail _ (.head _))) (.stay inner))
  have hnone : ¬ ∃ field, root.Direct ⟨"l.+01.k"⟩ field := by
    rintro ⟨field, hdirect⟩
    simpa using Direct.mem hdirect
  obtain ⟨hresolves, hunique, -⟩ := (path_resolves ⟨"a.b"⟩).2.2.2 root hroot
  obtain ⟨hresolves', hunique', -⟩ := (path_resolves ⟨"a.b.c"⟩).2.2.2 root hroot
  obtain ⟨hresolves'', -, -⟩ := (path_resolves ⟨"l.+01"⟩).2.2.2 root hroot
  obtain ⟨-, -, hleads⟩ := (path_resolves ⟨"l.+01.k"⟩).2.2.2 root hroot
  have hbool := (hresolves _).1 hnamed
  have htext := (hresolves' _).1 hdeep
  have hledger := (hresolves'' _).1 hitem
  have hchain : root.Leads ["l", "+01"] ledger :=
    (hledger.resolve_left fun hdirect => by simpa using Direct.mem hdirect).2
  have hbehind := (hleads ["l", "+01"] "k" [] ledger rfl hnone hchain).2 (by simp [ledger]) (by simp [ledger])
  exact ⟨hroot, hbool, hinner, fun h => absurd (hunique _ _ h hbool) (by simp [inner]), htext,
    fun h => absurd (hunique' _ _ h htext) (by simp), hledger, hchain, hbehind⟩

end Storage

end StorageQuery
