import StorageQuery.Storage.Basic
import StorageQuery.Proofs.Faults
set_option autoImplicit false

namespace StorageQuery.Storage

/-- What is shown within a value: items, the values of fields and those of entries. -/
def parts : Storage → List Storage
  | .array items => items
  | .object fields => fields.map Prod.snd
  | .map entries => entries.map Prod.snd
  | _ => []

section
variable {P : Storage → Prop}

mutual
@[elab_as_elim]
theorem parts_induction (h : ∀ value : Storage, (∀ part ∈ value.parts, P part) → P value) :
    (value : Storage) → P value
  | .array items => h _ (parts_induction_items h items)
  | .object fields => h _ (List.forall_mem_map.2 (parts_induction_fields h fields))
  | .map entries => h _ (List.forall_mem_map.2 (parts_induction_entries h entries))
  | .null | .bool _ | .number _ | .bigInt _ | .string _ | .bytes _ | .bigMap _ =>
    h _ (List.forall_mem_nil _)
theorem parts_induction_items (h : ∀ value : Storage, (∀ part ∈ value.parts, P part) → P value) :
    (items : List Storage) → ∀ item ∈ items, P item
  | [] => List.forall_mem_nil _
  | item :: rest => List.forall_mem_cons.2 ⟨parts_induction h item, parts_induction_items h rest⟩
theorem parts_induction_fields (h : ∀ value : Storage, (∀ part ∈ value.parts, P part) → P value) :
    (fields : List (String × Storage)) → ∀ field ∈ fields, P field.2
  | [] => List.forall_mem_nil _
  | (_, value) :: rest => List.forall_mem_cons.2 ⟨parts_induction h value, parts_induction_fields h rest⟩
theorem parts_induction_entries (h : ∀ value : Storage, (∀ part ∈ value.parts, P part) → P value) :
    (entries : List (Key × Storage)) → ∀ entry ∈ entries, P entry.2
  | [] => List.forall_mem_nil _
  | (_, value) :: rest => List.forall_mem_cons.2 ⟨parts_induction h value, parts_induction_entries h rest⟩
end

end

/-- The value at a place. Nothing is within a big map. -/
def at? (value : Storage) : Place → Option Storage
  | [] => some value
  | i :: place => value.parts[i]?.bind fun part => part.at? place

/-- The value is the other one or stands somewhere within it. -/
def Within (value root : Storage) : Prop := ∃ place, root.at? place = some value

theorem Within.refl (value : Storage) : value.Within value := ⟨[], rfl⟩

theorem Within.trans {value inner root : Storage} (h : value.Within inner) (h' : inner.Within root) :
    value.Within root := by
  obtain ⟨place, hplace⟩ := h
  obtain ⟨place', hplace'⟩ := h'
  refine ⟨place' ++ place, ?_⟩
  induction place' generalizing root with
  | nil => cases hplace'; exact hplace
  | cons i place' ih =>
    rw [at?, Option.bind_eq_some_iff] at hplace'
    obtain ⟨part, hpart, hrest⟩ := hplace'
    rw [List.cons_append, at?, hpart]
    exact ih hrest

theorem within_of_mem_parts {value root : Storage} (h : value ∈ root.parts) : value.Within root := by
  obtain ⟨i, hi⟩ := List.mem_iff_getElem?.1 h
  exact ⟨[i], by rw [at?, hi]; rfl⟩

theorem within_of_field? {root value : Storage} {name : String} (h : root.field? name = some value) :
    value.Within root := by
  cases root with
  | object fields =>
    obtain ⟨_, -, hmem⟩ := Table.mem_of_find? h
    exact within_of_mem_parts (List.mem_map_of_mem hmem)
  | _ => cases h

theorem within_of_find? {entries : List (Key × Storage)} {key : Key} {value : Storage}
    (h : Table.find? Key.same key entries = some value) : value.Within (.map entries) := by
  obtain ⟨_, -, hmem⟩ := Table.mem_of_find? h
  exact within_of_mem_parts (List.mem_map_of_mem hmem)

theorem within_of_child? {root value : Storage} {component : String} (h : root.child? component = some value) :
    value.Within root := by
  cases root with
  | array items =>
    obtain ⟨i, -, hi⟩ := Option.bind_eq_some_iff.1 h
    exact within_of_mem_parts (List.mem_of_getElem? hi)
  | object fields => exact within_of_field? h
  | _ => cases h

theorem within_of_descend? {root value : Storage} {components : List String}
    (h : root.descend? components = some value) : value.Within root := by
  induction components generalizing root with
  | nil => cases h; exact .refl _
  | cons component rest ih =>
    obtain ⟨next, hnext, hrest⟩ := Option.bind_eq_some_iff.1 h
    exact (ih hrest).trans (within_of_child? hnext)

theorem within_of_get? {root value : Storage} {path : Path} (h : root.get? path = some value) :
    value.Within root := by
  rw [get?] at h
  generalize hdirect : (if 1 < path.components.length then root.field? path.text else none) = direct at h
  cases direct with
  | none => exact within_of_descend? h
  | some found =>
    cases h
    split at hdirect
    · exact within_of_field? hdirect
    · cases hdirect

end StorageQuery.Storage
