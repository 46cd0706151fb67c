import StorageQuery.Storage.Plain
import StorageQuery.Proofs.Outcome
set_option autoImplicit false

namespace StorageQuery

namespace Json

def child? (component : String) : Json → Option Json
  | .object members => Table.find? (· == ·) component members
  | .array items => (Path.index? component).bind fun i => items[i]?
  | _ => none

def descend? (json : Json) : List String → Option Json
  | [] => some json
  | component :: rest => (json.child? component).bind fun next => next.descend? rest

def get? (json : Json) (path : Path) : Option Json :=
  let direct := if 1 < path.components.length then json.member? path.text else none
  match direct with
  | some found => some found
  | none => json.descend? path.components

end Json

namespace Storage

/-- The way along the components goes on behind a map or a big map. -/
def Passes (root : Storage) (components : List String) : Prop :=
  ∃ before component after container, components = before ++ component :: after ∧
    root.descend? before = some container ∧ container.isContainer = true

theorem Passes.of_child? {root next : Storage} {component : String} {rest : List String}
    (hchild : root.child? component = some next) (h : next.Passes rest) : root.Passes (component :: rest) := by
  obtain ⟨before, stop, after, container, rfl, hdescend, hcontainer⟩ := h
  refine ⟨component :: before, stop, after, container, rfl, ?_, hcontainer⟩
  rw [descend?, hchild, Option.bind_some, hdescend]

theorem field?_eq_none_of_isContainer {root : Storage} (h : root.isContainer = true) (name : String) :
    root.field? name = none := by
  obtain ⟨entries, rfl⟩ | ⟨handle, rfl⟩ := isContainer_eq_true_iff.1 h
  · rfl
  · rfl

theorem child?_eq_none_of_isContainer {root : Storage} (h : root.isContainer = true) (component : String) :
    root.child? component = none := by
  obtain ⟨entries, rfl⟩ | ⟨handle, rfl⟩ := isContainer_eq_true_iff.1 h
  · rfl
  · rfl

section
variable (policy : WidePolicy)

abbrev Shown : Option Storage → Option Json → Prop :=
  Option.Rel fun value json => value.toPlain policy = .ok json

variable {policy}

theorem shown_find? (name : String) {fields : List (String × Storage)} {members : List (String × Json)}
    (h : plainFields policy fields = .ok members) :
    Shown policy (Table.find? (· == ·) name fields) (Table.find? (· == ·) name members) := by
  induction fields generalizing members with
  | nil =>
    cases h
    exact .none
  | cons field rest ih =>
    obtain ⟨first, value⟩ := field
    simp only [plainFields, Outcome.bind_eq_ok_iff, pure, Except.pure, Except.ok.injEq] at h
    obtain ⟨json, hjson, others, hothers, rfl⟩ := h
    rw [Table.find?_cons, Table.find?_cons]
    cases first == name with
    | true => exact .some hjson
    | false => exact ih hothers

theorem shown_getElem? (i : Nat) {items : List Storage} {jsons : List Json}
    (h : plainItems policy items = .ok jsons) : Shown policy items[i]? jsons[i]? := by
  induction items generalizing jsons i with
  | nil =>
    cases h
    exact .none
  | cons item rest ih =>
    simp only [plainItems, Outcome.bind_eq_ok_iff, pure, Except.pure, Except.ok.injEq] at h
    obtain ⟨json, hjson, others, hothers, rfl⟩ := h
    cases i with
    | zero => exact .some hjson
    | succ i => exact ih i hothers

theorem narrow_eq_ok {n : Int} {json : Json} (h : policy.narrow n = .ok json) :
    (∃ number, json = .number number) ∨ ∃ digits, json = .string digits := by
  by_cases hfits : Number.Fits n
  · rw [policy.narrow_of_fits hfits] at h
    exact .inl ⟨_, (Except.ok.inj h).symm⟩
  · rw [policy.narrow_of_not_fits hfits] at h
    cases policy with
    | lossy => exact .inl ⟨_, (Except.ok.inj h).symm⟩
    | strict => cases h
    | string => exact .inr ⟨_, (Except.ok.inj h).symm⟩

theorem shown_child? {root : Storage} {json : Json} (h : root.toPlain policy = .ok json)
    (hcontainer : root.isContainer = false) (component : String) :
    Shown policy (root.child? component) (json.child? component) := by
  cases root with
  | array items =>
    obtain ⟨jsons, hjsons, rfl⟩ := Outcome.map_eq_ok_iff.1 h
    rw [child?, Json.child?]
    cases Path.index? component with
    | none => exact .none
    | some i => exact shown_getElem? i hjsons
  | object fields =>
    obtain ⟨members, hmembers, rfl⟩ := Outcome.map_eq_ok_iff.1 h
    exact shown_find? component hmembers
  | bigInt n =>
    obtain ⟨number, rfl⟩ | ⟨digits, rfl⟩ := narrow_eq_ok h
    · exact .none
    · exact .none
  | map entries => cases hcontainer
  | bigMap handle => cases hcontainer
  | _ =>
    cases h
    exact .none

theorem shown_field? {root : Storage} {json : Json} (h : root.toPlain policy = .ok json)
    (hcontainer : root.isContainer = false) (name : String) :
    Shown policy (root.field? name) (json.member? name) := by
  cases root with
  | array items =>
    obtain ⟨jsons, -, rfl⟩ := Outcome.map_eq_ok_iff.1 h
    exact .none
  | object fields =>
    obtain ⟨members, hmembers, rfl⟩ := Outcome.map_eq_ok_iff.1 h
    exact shown_find? name hmembers
  | bigInt n =>
    obtain ⟨number, rfl⟩ | ⟨digits, rfl⟩ := narrow_eq_ok h
    · exact .none
    · exact .none
  | map entries => cases hcontainer
  | bigMap handle => cases hcontainer
  | _ =>
    cases h
    exact .none

theorem passes_of_isContainer {root : Storage} (h : root.isContainer = true) (component : String)
    (rest : List String) :
    root.descend? (component :: rest) = none ∧ root.Passes (component :: rest) := by
  refine ⟨?_, [], component, rest, root, rfl, rfl, h⟩
  rw [descend?, child?_eq_none_of_isContainer h, Option.bind_none]

/-- Step by step, the value and the document are entered in the same way, up to a map or a big map. -/
theorem shown_descend? {root : Storage} {json : Json} (h : root.toPlain policy = .ok json)
    (components : List String) :
    Shown policy (root.descend? components) (json.descend? components) ∨
      root.descend? components = none ∧ root.Passes components := by
  induction components generalizing root json with
  | nil => exact .inl (.some h)
  | cons component rest ih =>
    cases hcontainer : root.isContainer with
    | true => exact .inr (passes_of_isContainer hcontainer component rest)
    | false =>
      have hchild := shown_child? h hcontainer component
      rw [descend?, Json.descend?]
      generalize hvalue : root.child? component = value at hchild
      generalize json.child? component = inner at hchild
      cases hchild with
      | none => exact .inl .none
      | some hnext =>
        rcases ih hnext with hrest | ⟨hnone, hpasses⟩
        · exact .inl hrest
        · exact .inr ⟨hnone, hpasses.of_child? hvalue⟩

theorem shown_get? {root : Storage} {json : Json} (h : root.toPlain policy = .ok json) (path : Path) :
    Shown policy (root.get? path) (json.get? path) ∨
      root.get? path = none ∧ root.Passes path.components := by
  have hdescend := shown_descend? h path.components
  rw [get?, Json.get?]
  by_cases hlong : 1 < path.components.length
  · rw [if_pos hlong, if_pos hlong]
    cases hcontainer : root.isContainer with
    | true =>
      -- the document of a map or a big map may have a member of that name, the value has no field
      rw [field?_eq_none_of_isContainer hcontainer]
      match hcomponents : path.components with
      | [] => rw [hcomponents] at hlong; cases hlong
      | component :: rest => exact .inr (passes_of_isContainer hcontainer component rest)
    | false =>
      have hfield := shown_field? h hcontainer path.text
      generalize root.field? path.text = value at hfield
      generalize json.member? path.text = member at hfield
      cases hfield with
      | none => exact hdescend
      | some hdirect => exact .inl (.some hdirect)
  · rw [if_neg hlong, if_neg hlong]
    exact hdescend

end

/-- Selecting a value and showing it as a plain document is showing the whole and following the path in the
document. Where there is no value at a path, there is nothing in the document either, unless the path goes on
behind a map or a big map. -/
theorem get?_toPlain (policy : WidePolicy) (root : Storage) (json : Json)
    (h : root.toPlain policy = .ok json) (path : Path) :
    (∀ value, root.get? path = some value →
      ∃ shown, value.toPlain policy = .ok shown ∧ json.get? path = some shown) ∧
    (root.get? path = none → json.get? path = none ∨ root.Passes path.components) := by
  rcases shown_get? h path with hshown | ⟨hnone, hpasses⟩
  · generalize root.get? path = value at hshown
    generalize json.get? path = found at hshown
    cases hshown with
    | none => exact ⟨nofun, fun _ => .inl rfl⟩
    | some hvalue =>
      refine ⟨?_, nofun⟩
      rintro value ⟨⟩
      exact ⟨_, hvalue, rfl⟩
  · rw [hnone]
    exact ⟨nofun, fun _ => .inr hpasses⟩

/-- A place in a list with a sign and a zero in front, a field with a dot in its name, and a path that goes on
behind a map, where the document of the map has something. -/
theorem get?_toPlain_passing :
    let root : Storage := .object [("a.b", .bigInt 7), ("m", .map [(.string "k", .bytes [255])]),
      ("l", .array [.null, .object [("x", .bool true)]])]
    let json : Json := .object [("a.b", .number (.integer 7 (by decide))),
      ("m", .array [.object [("key", .string "k"), ("value", .string "ff")]]),
      ("l", .array [.null, .object [("x", .bool true)]])]
    root.toPlain .strict = .ok json ∧
      root.get? ⟨"l.+01.x"⟩ = some (.bool true) ∧ json.get? ⟨"l.+01.x"⟩ = some (.bool true) ∧
      json.get? ⟨"a.b"⟩ = some (.number (.integer 7 (by decide))) ∧
      root.get? ⟨"m.0.value"⟩ = none ∧ json.get? ⟨"m.0.value"⟩ = some (.string "ff") ∧
      root.Passes ["m", "0", "value"] := by
  intro root json
  have hplain : root.toPlain .strict = .ok json := rfl
  have hlist : root.get? ⟨"l.+01.x"⟩ = some (.bool true) := rfl
  have hdotted : root.get? ⟨"a.b"⟩ = some (.bigInt 7) := rfl
  have hmap : root.get? ⟨"m.0.value"⟩ = none := rfl
  have hbehind : json.get? ⟨"m.0.value"⟩ = some (.string "ff") := rfl
  obtain ⟨shown, hshown, hfound⟩ := (get?_toPlain .strict root json hplain ⟨"l.+01.x"⟩).1 _ hlist
  cases hshown
  obtain ⟨shown, hshown, hinteger⟩ := (get?_toPlain .strict root json hplain ⟨"a.b"⟩).1 _ hdotted
  cases hshown
  have hpasses := (get?_toPlain .strict root json hplain ⟨"m.0.value"⟩).2 hmap
  rw [hbehind] at hpasses
  exact ⟨hplain, hlist, hfound, hinteger, hmap, hbehind, hpasses.resolve_left nofun⟩

end Storage

end StorageQuery
