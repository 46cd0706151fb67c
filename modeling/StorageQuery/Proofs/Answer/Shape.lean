import StorageQuery.Proofs.Answer.Reading
set_option autoImplicit false

namespace StorageQuery

/-- No field has just this name, dots and all, or null stands there. -/
def Storage.Lacks (root : Storage) (name : String) : Prop :=
  (∀ fields, root = .object fields → name ∉ Table.keys fields) ∨
    ∃ fields, root = .object fields ∧ Table.find? (· == ·) name fields = some .null

section
variable (contents : Contents) (policy : WidePolicy)

mutual
/-- One result for each selector that is not blank, in their order and under its name. -/
def Answer.Fits (root : Storage) : List Selector → Answer → Prop
  | [], answer => answer = []
  | selector :: rest, answer =>
    if selector.isBlank then Answer.Fits root rest answer
    else ∃ result others, answer = (selector.name, result) :: others ∧
      FieldResult.Fits root selector result ∧ Answer.Fits root rest others
def FieldResult.Fits (root : Storage) : Selector → FieldResult → Prop
  | .path path, result =>
    (result = .missing .field ↔ root.get? path = none ∨ root.get? path = some .null) ∧
    (∀ value, root.get? path = some value → value ≠ .null →
      ∃ json, value.toPlain policy = .ok json ∧ result = .value json)
  | .keys name requests, result =>
    (result = .missing .field ↔ root.Lacks name) ∧
    (result = .missing .map ↔
      ∃ value, root.field? name = some value ∧ value ≠ .null ∧ value.isContainer = false) ∧
    (∀ container, root.field? name = some container → container.isContainer = true →
      ∃ rows, result = .rows rows ∧ RowResult.FitAll container requests rows)
def RowResult.FitAll (container : Storage) : List Request → List (Key × RowResult) → Prop
  | [], rows => rows = []
  | request :: rest, rows =>
    ∃ result others, rows = (request.key, result) :: others ∧
      RowResult.Fits container request result ∧ RowResult.FitAll container rest others
def RowResult.Fits (container : Storage) : Request → RowResult → Prop
  | .whole key, result =>
    (∃ found, container.find contents key = .ok found) ∧
    (result = .missing .key ↔ container.find contents key = .ok none) ∧
    (∀ answer, result ≠ .nested answer) ∧
    (∀ found, container.find contents key = .ok (some found) →
      ∃ json, found.toPlain policy = .ok json ∧ result = .value json)
  | .within key selectors, result =>
    (∃ found, container.find contents key = .ok found) ∧
    (result = .missing .key ↔ container.find contents key = .ok none) ∧
    ((∃ answer, result = .nested answer) ↔ ∃ found, container.find contents key = .ok (some found)) ∧
    (∀ found answer, container.find contents key = .ok (some found) → result = .nested answer →
      Answer.Fits found selectors answer)
end

end

section
variable {contents : Contents} {policy : WidePolicy}

theorem Storage.lacks_iff {root : Storage} {name : String} :
    root.Lacks name ↔ root.field? name = none ∨ root.field? name = some .null := by
  cases root with
  | object fields =>
    have hn : Table.find? (· == ·) name fields = none ↔ name ∉ Table.keys fields := by
      rw [Table.find?_eq_none_iff]
      simp only [beq_eq_false_iff_ne]
      exact ⟨fun h hm => h name hm rfl, fun h name' hm he => h (he ▸ hm)⟩
    simp [Lacks, field?, hn]
  | _ => simp [Lacks, field?]

mutual
theorem Answer.fits_iff (root : Storage) : (selectors : List Selector) → (answer : Answer) →
    (Answer.Fits contents policy root selectors answer ↔
      Reading.level contents policy root selectors = .ok answer)
  | [], answer => by simp [Answer.Fits, Reading.level, eq_comm]
  | selector :: rest, answer => by
    have hs := FieldResult.fits_iff root selector
    have hr := Answer.fits_iff root rest
    cases hb : selector.isBlank with
    | true => simp [Answer.Fits, Reading.level_cons_of_blank hb, hb, hr]
    | false =>
      simp only [Answer.Fits, Reading.level_cons hb, hb, hs, hr]
      cases Reading.field contents policy root selector <;>
        cases Reading.level contents policy root rest <;> simp [Except.map, eq_comm]
theorem FieldResult.fits_iff (root : Storage) : (selector : Selector) → (result : FieldResult) →
    (FieldResult.Fits contents policy root selector result ↔
      Reading.field contents policy root selector = .ok result)
  | .path path, result => by
    rw [FieldResult.Fits]
    by_cases hm : root.get? path = none ∨ root.get? path = some .null
    · rw [Reading.field_path_missing hm]
      constructor
      · rintro ⟨hmissing, -⟩
        rw [hmissing.2 hm]
      · rintro ⟨⟩
        rcases hm with hm | hm <;> simp [hm]
    · obtain ⟨hnone, hnull⟩ := not_or.1 hm
      obtain ⟨value, hv⟩ := Option.ne_none_iff_exists'.1 hnone
      have hn : value ≠ .null := fun h => hnull (h ▸ hv)
      rw [Reading.field_path_found hv hn]
      constructor
      · rintro ⟨-, hvalue⟩
        obtain ⟨json, hp, rfl⟩ := hvalue value hv hn
        rw [hp]
        rfl
      · intro h
        obtain ⟨json, hp, rfl⟩ := Outcome.map_eq_ok_iff.1 h
        simp [hv, hn, hp]
  | .keys name requests, result => by
    rw [FieldResult.Fits, Storage.lacks_iff]
    by_cases hm : root.field? name = none ∨ root.field? name = some .null
    · rw [Reading.field_keys_missing hm]
      constructor
      · rintro ⟨hmissing, -⟩
        rw [hmissing.2 hm]
      · rintro ⟨⟩
        rcases hm with hm | hm <;> simp [hm, Storage.isContainer]
    · obtain ⟨hnone, hnull⟩ := not_or.1 hm
      obtain ⟨value, hv⟩ := Option.ne_none_iff_exists'.1 hnone
      have hn : value ≠ .null := fun h => hnull (h ▸ hv)
      cases hc : value.isContainer with
      | false =>
        rw [Reading.field_keys_closed hv hn hc]
        constructor
        · rintro ⟨-, hclosed, -⟩
          rw [hclosed.2 ⟨value, hv, hn, hc⟩]
        · rintro ⟨⟩
          simp [hv, hn, hc]
      | true =>
        have hr := RowResult.fitAll_iff value requests
        rw [Reading.field_keys_entered hv hc]
        constructor
        · rintro ⟨-, -, hrows⟩
          obtain ⟨rows, rfl, hfit⟩ := hrows value hv hc
          rw [(hr rows).1 hfit]
          rfl
        · intro h
          obtain ⟨rows, hrows, rfl⟩ := Outcome.map_eq_ok_iff.1 h
          simp [hv, hn, hc, hr, hrows]
theorem RowResult.fitAll_iff (container : Storage) :
    (requests : List Request) → (rows : List (Key × RowResult)) →
    (RowResult.FitAll contents policy container requests rows ↔
      Reading.rows contents policy container requests = .ok rows)
  | [], rows => by simp [RowResult.FitAll, Reading.rows, eq_comm]
  | request :: rest, rows => by
    have hs := RowResult.fits_iff container request
    have hr := RowResult.fitAll_iff container rest
    simp only [RowResult.FitAll, Reading.rows_cons, hs, hr]
    cases Reading.row contents policy container request <;>
      cases Reading.rows contents policy container rest <;> simp [Except.map, eq_comm]
theorem RowResult.fits_iff (container : Storage) : (request : Request) → (result : RowResult) →
    (RowResult.Fits contents policy container request result ↔
      Reading.row contents policy container request = .ok result)
  | .whole key, result => by
    rw [RowResult.Fits, Reading.row_whole]
    rcases container.find contents key with e | found | found
    · simp
    · constructor
      · rintro ⟨-, hmissing, -⟩
        rw [hmissing.2 rfl]
      · rintro ⟨⟩
        simp
    · constructor
      · rintro ⟨-, -, -, hvalue⟩
        obtain ⟨json, hp, rfl⟩ := hvalue found rfl
        simp [hp, Except.map]
      · intro h
        obtain ⟨json, hp, rfl⟩ := Outcome.map_eq_ok_iff.1 h
        simp [hp]
  | .within key selectors, result => by
    rw [RowResult.Fits, Reading.row_within]
    rcases container.find contents key with e | found | found
    · simp
    · constructor
      · rintro ⟨-, hmissing, -⟩
        rw [hmissing.2 rfl]
      · rintro ⟨⟩
        simp
    · have hl := Answer.fits_iff found selectors
      constructor
      · rintro ⟨-, -, hnested, hfits⟩
        obtain ⟨answer, rfl⟩ := hnested.2 ⟨found, rfl⟩
        simp [(hl answer).1 (hfits found answer rfl rfl), Except.map]
      · intro h
        obtain ⟨answer, ha, rfl⟩ := Outcome.map_eq_ok_iff.1 h
        simp [hl, ha]
end

theorem Reading.keys_of_level {root : Storage} {selectors : List Selector} {answer : Answer}
    (h : level contents policy root selectors = .ok answer) :
    Table.keys answer = (selectors.filter fun selector => !selector.isBlank).map Selector.name := by
  rw [level_eq_ok_iff] at h
  generalize selectors.filter (fun selector => !selector.isBlank) = asked at h
  induction h with
  | nil => rfl
  | cons hr _ ih => exact congrArg₂ List.cons hr.1 ih

end

/-- Selectors are answered with what fits them, and with that only: each that is not blank has its result,
in their order, and every result is of the kind and has the contents that its selector asks for. -/
theorem Storage.select_eq_ok_iff_fits (contents : Contents) (delays : Delays) (policy : WidePolicy)
    (root : Storage) (selectors : List Selector) (answer : Answer) :
    (root.select contents delays policy selectors).outcome = .ok answer ↔
      Table.keys answer = (selectors.filter fun selector => !selector.isBlank).map Selector.name ∧
        Answer.Fits contents policy root selectors answer := by
  rw [outcome_select_eq_ok_iff, Answer.fits_iff]
  exact ⟨fun h => ⟨Reading.keys_of_level h, h⟩, And.right⟩

end StorageQuery
