import Mathlib.Data.List.Forall2
import StorageQuery.Answer.Evaluation
import StorageQuery.Proofs.Outcome
import StorageQuery.Proofs.Work.Run
/-!
The plain reading of selectors: one after the other, keys too, and without time. It goes on only as long
as nothing fails.
-/

set_option autoImplicit false

namespace StorageQuery

def Storage.find (contents : Contents) (container : Storage) (key : Key) :
    Except StorageError (Option Storage) :=
  match container with
  | .map entries => .ok (Table.find? Key.same key entries)
  | .bigMap handle => contents handle.pointer key
  | _ => .ok none

namespace Reading

variable (contents : Contents) (policy : WidePolicy)

mutual
def level (root : Storage) : List Selector → Except StorageError Answer
  | [] => .ok []
  | selector :: rest => do
    let part ← if selector.isBlank then pure [] else
      (field root selector).map fun result => [(selector.name, result)]
    let others ← level root rest
    return part ++ others
def field (root : Storage) : Selector → Except StorageError FieldResult
  | .path path =>
    match root.get? path with
    | none | some .null => .ok (.missing .field)
    | some value => (value.toPlain policy).map .value
  | .keys name requests =>
    match root.field? name with
    | none | some .null => .ok (.missing .field)
    | some value =>
      if value.isContainer then (rows value requests).map .rows else .ok (.missing .map)
def rows (container : Storage) : List Request → Except StorageError (List (Key × RowResult))
  | [] => .ok []
  | request :: rest => do
    let result ← row container request
    let others ← rows container rest
    return (request.key, result) :: others
def row (container : Storage) : Request → Except StorageError RowResult
  | .whole key => do
    match ← container.find contents key with
    | none => return .missing .key
    | some found => (found.toPlain policy).map .value
  | .within key selectors => do
    match ← container.find contents key with
    | none => return .missing .key
    | some found => (level found selectors).map .nested
end

section
variable {contents policy} {root container : Storage}

theorem level_cons_of_blank {selector : Selector} (h : selector.isBlank = true)
    (rest : List Selector) :
    level contents policy root (selector :: rest) = level contents policy root rest := by
  simp only [level, h, ↓reduceIte]
  cases level contents policy root rest <;> rfl

theorem level_cons {selector : Selector} (h : selector.isBlank = false) (rest : List Selector) :
    level contents policy root (selector :: rest) =
      match field contents policy root selector with
      | .ok result => (level contents policy root rest).map ((selector.name, result) :: ·)
      | .error e => .error e := by
  simp only [level, h, Bool.false_eq_true, ↓reduceIte]
  cases field contents policy root selector <;> cases level contents policy root rest <;> rfl

theorem rows_cons (request : Request) (rest : List Request) :
    rows contents policy container (request :: rest) =
      match row contents policy container request with
      | .ok result => (rows contents policy container rest).map ((request.key, result) :: ·)
      | .error e => .error e := by
  simp only [rows]
  cases row contents policy container request <;> cases rows contents policy container rest <;> rfl

theorem row_whole (key : Key) :
    row contents policy container (.whole key) =
      match container.find contents key with
      | .ok none => .ok (.missing .key)
      | .ok (some found) => (found.toPlain policy).map .value
      | .error e => .error e := by
  simp only [row]
  rcases container.find contents key with e | found | found <;> rfl

theorem row_within (key : Key) (selectors : List Selector) :
    row contents policy container (.within key selectors) =
      match container.find contents key with
      | .ok none => .ok (.missing .key)
      | .ok (some found) => (level contents policy found selectors).map .nested
      | .error e => .error e := by
  simp only [row]
  rcases container.find contents key with e | found | found <;> rfl

theorem field_path_missing {path : Path} (h : root.get? path = none ∨ root.get? path = some .null) :
    field contents policy root (.path path) = .ok (.missing .field) := by
  rcases h with h | h <;> simp [field, h]

theorem field_path_found {path : Path} {value : Storage} (h : root.get? path = some value)
    (hn : value ≠ .null) :
    field contents policy root (.path path) = (value.toPlain policy).map .value := by
  cases value <;> simp_all [field]

theorem field_keys_missing {name : String} {requests : List Request}
    (h : root.field? name = none ∨ root.field? name = some .null) :
    field contents policy root (.keys name requests) = .ok (.missing .field) := by
  rcases h with h | h <;> simp [field, h]

theorem field_keys_closed {name : String} {requests : List Request} {value : Storage}
    (h : root.field? name = some value) (hn : value ≠ .null) (hc : value.isContainer = false) :
    field contents policy root (.keys name requests) = .ok (.missing .map) := by
  cases value <;> simp_all [field]

theorem field_keys_entered {name : String} {requests : List Request}
    (h : root.field? name = some container) (hc : container.isContainer = true) :
    field contents policy root (.keys name requests) =
      (rows contents policy container requests).map .rows := by
  cases container <;> simp_all [field, Storage.isContainer]

theorem level_eq_ok_iff {selectors : List Selector} {answer : Answer} :
    level contents policy root selectors = .ok answer ↔
      List.Forall₂ (fun selector result =>
        result.1 = selector.name ∧ field contents policy root selector = .ok result.2)
        (selectors.filter fun selector => !selector.isBlank) answer := by
  induction selectors generalizing answer with
  | nil => simp [level, eq_comm]
  | cons selector rest ih =>
    cases hb : selector.isBlank with
    | true => simp [level_cons_of_blank hb, hb, ih]
    | false =>
      simp only [level_cons hb, hb, Bool.not_false, List.filter_cons_of_pos, List.forall₂_cons_left_iff]
      cases hf : field contents policy root selector with
      | error e => simp
      | ok result =>
        simp only [Outcome.map_eq_ok_iff, ih]
        constructor
        · rintro ⟨others, hr, rfl⟩
          exact ⟨_, others, ⟨rfl, rfl⟩, hr, rfl⟩
        · rintro ⟨⟨-, -⟩, others, ⟨rfl, ⟨⟩⟩, hr, rfl⟩
          exact ⟨others, hr, rfl⟩

theorem rows_eq_ok_iff {requests : List Request} {results : List (Key × RowResult)} :
    rows contents policy container requests = .ok results ↔
      List.Forall₂ (fun request result =>
        result.1 = request.key ∧ row contents policy container request = .ok result.2)
        requests results := by
  induction requests generalizing results with
  | nil => simp [rows, eq_comm]
  | cons request rest ih =>
    simp only [rows_cons, List.forall₂_cons_left_iff]
    cases hf : row contents policy container request with
    | error e => simp
    | ok result =>
      simp only [Outcome.map_eq_ok_iff, ih]
      constructor
      · rintro ⟨others, hr, rfl⟩
        exact ⟨_, others, ⟨rfl, rfl⟩, hr, rfl⟩
      · rintro ⟨⟨-, -⟩, others, ⟨rfl, ⟨⟩⟩, hr, rfl⟩
        exact ⟨others, hr, rfl⟩

end

end Reading

section
variable (contents : Contents) (policy : WidePolicy)

theorem Work.value_map {α β : Type} (f : α → β) (work : Work α) :
    (work.map f).value contents = (work.value contents).map f := by
  simp only [map, value]
  cases work.value contents <;> rfl

theorem Evaluation.value_plain (found : Storage) :
    (plain policy found).value contents = found.toPlain policy := rfl

theorem Evaluation.value_lookup (container : Storage) (key : Key) :
    (lookup container key).value contents = container.find contents key := by
  cases container <;> rfl

theorem Evaluation.value_pathResult (root : Storage) (path : Path) :
    (pathResult policy root path).value contents = Reading.field contents policy root (.path path) := by
  simp only [pathResult, Reading.field]
  split <;> simp_all [Work.value, Work.value_map, value_plain]

mutual
theorem Evaluation.values_fields (root : Storage) : (selectors : List Selector) →
    (Evaluation.fields policy root selectors).values contents =
      Reading.level contents policy root selectors
  | [] => rfl
  | selector :: rest => by
    have hs := Evaluation.value_field root selector
    have hr := Evaluation.values_fields root rest
    cases hb : selector.isBlank with
    | true =>
      simp only [Evaluation.fields, Reading.level, hb, ↓reduceIte, hr]
      cases Reading.level contents policy root rest <;> rfl
    | false =>
      simp only [Evaluation.fields, Reading.level, hb, Siblings.values, Work.value_map, hs, hr,
        Bool.false_eq_true, ↓reduceIte]
      cases Reading.field contents policy root selector <;>
        cases Reading.level contents policy root rest <;> rfl
theorem Evaluation.value_field (root : Storage) : (selector : Selector) →
    (Evaluation.field policy root selector).value contents =
      Reading.field contents policy root selector
  | .path path => Evaluation.value_pathResult contents policy root path
  | .keys name requests => by
    simp only [Evaluation.field, Reading.field]
    split
    · simp_all [Work.value]
    · simp_all [Work.value]
    · rename_i value hnull hvalue
      have hr := Evaluation.values_rows value requests
      split <;> simp_all [Work.value, Work.value_map]
theorem Evaluation.values_rows (container : Storage) : (requests : List Request) →
    (Evaluation.rows policy container requests).values contents =
      Reading.rows contents policy container requests
  | [] => rfl
  | request :: rest => by
    have hq := Evaluation.value_row container request
    have hr := Evaluation.values_rows container rest
    simp only [Evaluation.rows, Reading.rows, Siblings.values, Work.value_map, hq, hr]
    cases Reading.row contents policy container request <;>
      cases Reading.rows contents policy container rest <;> rfl
theorem Evaluation.value_row (container : Storage) : (request : Request) →
    (Evaluation.row policy container request).value contents =
      Reading.row contents policy container request
  | .whole key => by
    simp only [Evaluation.row, Reading.row, Work.value, Evaluation.value_lookup]
    cases h : container.find contents key with
    | error e => rfl
    | ok found =>
      cases found with
      | none => rfl
      | some found => simp [Work.value_map, Evaluation.value_plain]; rfl
  | .within key selectors => by
    simp only [Evaluation.row, Reading.row, Work.value, Evaluation.value_lookup]
    cases h : container.find contents key with
    | error e => rfl
    | ok found =>
      cases found with
      | none => rfl
      | some found =>
        simp [Work.value_map, Work.value, Evaluation.values_fields found selectors]
        rfl
end

end

/-- With whatever delays, selecting succeeds just when the plain reading does. -/
theorem Storage.outcome_select_eq_ok_iff {contents : Contents} {policy : WidePolicy} {delays : Delays}
    {root : Storage} {selectors : List Selector} {answer : Answer} :
    (root.select contents delays policy selectors).outcome = .ok answer ↔
      Reading.level contents policy root selectors = .ok answer := by
  rw [← Evaluation.values_fields]
  exact Work.outcome_run_eq_ok

theorem Storage.outcome_select_isError_iff {contents : Contents} {policy : WidePolicy} {delays : Delays}
    {root : Storage} {selectors : List Selector} :
    (∃ e, (root.select contents delays policy selectors).outcome = .error e) ↔
      ∃ e, Reading.level contents policy root selectors = .error e := by
  cases hs : (root.select contents delays policy selectors).outcome with
  | ok answer => simp [outcome_select_eq_ok_iff.1 hs]
  | error e =>
    cases hl : Reading.level contents policy root selectors with
    | ok answer => simp [outcome_select_eq_ok_iff.2 hl] at hs
    | error e' => simp

theorem Storage.outcome_answer (remote : Remote) (policy : WidePolicy) (root : Storage)
    (selectors : List Selector) :
    (root.answer remote policy selectors).outcome =
      (root.select remote.contents remote.delays policy selectors).outcome := by
  rw [answer, Timeline.noteFailure]
  split <;> rfl

theorem Storage.outcome_render (policy : WidePolicy) (root : Storage) :
    (root.render policy).outcome = root.toPlain policy := by
  rw [render, Timeline.noteFailure]
  split <;> rfl

end StorageQuery
