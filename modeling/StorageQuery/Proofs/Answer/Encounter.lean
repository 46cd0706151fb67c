import StorageQuery.Proofs.Answer.Reading
import StorageQuery.Proofs.Work.Notes
set_option autoImplicit false

namespace StorageQuery

theorem Storage.level_of_mem_warnings {policy : WidePolicy} {value : Storage} {note : Note}
    (h : note ∈ value.warnings policy) : note.level = .warn := by
  rw [warnings] at h
  split at h
  · obtain ⟨n, -, rfl⟩ := List.mem_map.1 h
    rfl
  · cases h

inductive Encounter where
  | entered (field : String) (container : Storage) (keys : Nat)
  | shown (value : Storage)

namespace Encounter

def notes (policy : WidePolicy) : Encounter → List Note
  | .entered field container keys => [.readingKeys field container.kind keys]
  | .shown value => value.warnings policy

section
variable (contents : Contents)

mutual
/-- What selectors come to, in their order, nested ones where the value is that they select from. -/
def level (root : Storage) : List Selector → List Encounter
  | [] => []
  | selector :: rest => (if selector.isBlank then [] else field root selector) ++ level root rest
def field (root : Storage) : Selector → List Encounter
  | .path path =>
    match root.get? path with
    | none | some .null => []
    | some value => [.shown value]
  | .keys name requests =>
    match root.field? name with
    | none => []
    | some value =>
      if value.isContainer then .entered name value requests.length :: rows value requests else []
def rows (container : Storage) : List Request → List Encounter
  | [] => []
  | request :: rest => row container request ++ rows container rest
def row (container : Storage) : Request → List Encounter
  | .whole key =>
    match container.find contents key with
    | .ok (some found) => [.shown found]
    | _ => []
  | .within key selectors =>
    match container.find contents key with
    | .ok (some found) => level found selectors
    | _ => []
end

end

end Encounter

namespace Evaluation

section
variable (contents : Contents) (policy : WidePolicy) (delays : Delays) (now : Nat)

theorem notes_course_map {α β : Type} (f : α → β) (work : Work α) :
    ((work.map f).course contents delays now).notes = (work.course contents delays now).notes := by
  rw [Work.map, Work.course, Course.notes_append]
  cases work.value contents <;> exact List.append_nil _

theorem notes_course_plain (value : Storage) :
    ((plain policy value).course contents delays now).notes = value.warnings policy := by
  simp only [plain, Work.course, Work.value, Course.onSuccess, Course.notes_append, Course.notes_notes,
    Course.notes_ending, List.append_nil]

theorem notes_course_lookup (container : Storage) (key : Key) :
    ((lookup container key).course contents delays now).notes = [] := by
  cases container with
  | bigMap handle =>
    rw [lookup, Work.course]
    exact Course.notes_ending _ _
  | _ => rfl

theorem notes_course_found {β : Type} (container : Storage) (key : Key)
    (next : Option Storage → Work β) :
    ((((lookup container key).andThen next).course contents delays now).notes) =
      match container.find contents key with
      | .ok found =>
        ((next found).course contents delays ((lookup container key).finish contents delays now)).notes
      | .error _ => [] := by
  rw [Work.course, Course.notes_append, notes_course_lookup, value_lookup]
  cases container.find contents key <;> rfl

theorem notes_course_path (root : Storage) (path : Path) :
    ((pathResult policy root path).course contents delays now).notes =
      (Encounter.field contents root (.path path)).flatMap (Encounter.notes policy) := by
  simp only [pathResult, Encounter.field]
  cases root.get? path with
  | none => rfl
  | some value =>
    cases value with
    | null => rfl
    | _ => simp only [notes_course_map, notes_course_plain, List.flatMap_singleton, Encounter.notes]

end

section
variable (contents : Contents) (policy : WidePolicy)

mutual
theorem notes_course_fields (delays : Delays) (now i : Nat) (root : Storage) :
    (selectors : List Selector) →
    ((fields policy root selectors).course contents delays now i).notes =
      (Encounter.level contents root selectors).flatMap (Encounter.notes policy)
  | [] => rfl
  | selector :: rest => by
    rw [fields, Encounter.level, List.flatMap_append]
    split
    · exact notes_course_fields delays now i root rest
    · rw [Siblings.course, Course.notes_append, Course.notes_under, notes_course_map,
        notes_course_field (delays.below i) now root selector,
        notes_course_fields delays now (i + 1) root rest]
theorem notes_course_field (delays : Delays) (now : Nat) (root : Storage) : (selector : Selector) →
    ((field policy root selector).course contents delays now).notes =
      (Encounter.field contents root selector).flatMap (Encounter.notes policy)
  | .path path => notes_course_path contents policy delays now root path
  | .keys name requests => by
    simp only [field, Encounter.field]
    split
    · rename_i h
      rw [h]
      rfl
    · rename_i h
      rw [h]
      rfl
    · rename_i value _ h
      rw [h]
      dsimp only
      split
      · have hrows := notes_course_rows delays now 0 value requests
        rw [List.flatMap_cons, ← hrows]
        simp only [Work.course, Work.value, Course.onSuccess, Course.notes_append, Course.notes_notes,
          notes_course_map, Encounter.notes]
        rfl
      · rfl
theorem notes_course_rows (delays : Delays) (now i : Nat) (container : Storage) :
    (requests : List Request) →
    ((rows policy container requests).course contents delays now i).notes =
      (Encounter.rows contents container requests).flatMap (Encounter.notes policy)
  | [] => rfl
  | request :: rest => by
    rw [rows, Encounter.rows, List.flatMap_append, Siblings.course, Course.notes_append,
      Course.notes_under, notes_course_map, notes_course_row (delays.below i) now container request,
      notes_course_rows delays now (i + 1) container rest]
theorem notes_course_row (delays : Delays) (now : Nat) (container : Storage) : (request : Request) →
    ((row policy container request).course contents delays now).notes =
      (Encounter.row contents container request).flatMap (Encounter.notes policy)
  | .whole key => by
    rw [row, notes_course_found, Encounter.row]
    rcases container.find contents key with e | found | found
    · rfl
    · rfl
    · simp only [notes_course_map, notes_course_plain, List.flatMap_singleton, Encounter.notes]
  | .within key selectors => by
    rw [row, notes_course_found, Encounter.row]
    rcases container.find contents key with e | found | found
    · rfl
    · rfl
    · simp only [notes_course_map, Work.course]
      exact notes_course_fields delays _ 0 found selectors
end

theorem mild_warnings (value : Storage) : ∀ note ∈ value.warnings policy, note.level ≠ .error := by
  intro note hm
  rw [Storage.level_of_mem_warnings hm]
  nofun

theorem mild_map {α β : Type} (f : α → β) {work : Work α} (h : work.Notes fun note => note.level ≠ .error) :
    (work.map f).Notes fun note => note.level ≠ .error :=
  ⟨h, fun _ => trivial⟩

theorem mild_plain (value : Storage) : (plain policy value).Notes fun note => note.level ≠ .error :=
  ⟨mild_warnings policy value, fun _ => trivial⟩

theorem mild_lookup (container : Storage) (key : Key) :
    (lookup container key).Notes fun note => note.level ≠ .error := by
  cases container <;> trivial

mutual
theorem mild_fields (root : Storage) : (selectors : List Selector) →
    (fields policy root selectors).Notes fun note => note.level ≠ .error
  | [] => trivial
  | selector :: rest => by
    rw [fields]
    split
    · exact mild_fields root rest
    · exact ⟨mild_map _ (mild_field root selector), mild_fields root rest⟩
theorem mild_field (root : Storage) : (selector : Selector) →
    (field policy root selector).Notes fun note => note.level ≠ .error
  | .path path => by
    simp only [field, pathResult]
    split
    · trivial
    · trivial
    · exact mild_map _ (mild_plain policy _)
  | .keys name requests => by
    simp only [field]
    split
    · trivial
    · trivial
    · rename_i value _ _
      split
      · refine ⟨fun note hm => ?_, fun _ => mild_map _ (mild_rows value requests)⟩
        cases List.mem_singleton.1 hm
        nofun
      · trivial
theorem mild_rows (container : Storage) : (requests : List Request) →
    (rows policy container requests).Notes fun note => note.level ≠ .error
  | [] => trivial
  | request :: rest => ⟨mild_map _ (mild_row container request), mild_rows container rest⟩
theorem mild_row (container : Storage) : (request : Request) →
    (row policy container request).Notes fun note => note.level ≠ .error
  | .whole key => by
    refine ⟨mild_lookup container key, fun found => ?_⟩
    cases found with
    | none => trivial
    | some found => exact mild_map _ (mild_plain policy found)
  | .within key selectors => by
    refine ⟨mild_lookup container key, fun found => ?_⟩
    cases found with
    | none => trivial
    | some found => exact mild_map _ (mild_fields found selectors)
end

end

end Evaluation

end StorageQuery
