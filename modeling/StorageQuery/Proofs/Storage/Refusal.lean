import StorageQuery.Storage.Plain
import StorageQuery.Proofs.Storage.Within
/-!
Storages that have no plain document. The only thing that is ever refused is an integer of more than 64 bits,
by the strict policy, and of several it is the first in the order of the document. Integers are looked for in
lists, fields and the values of maps; what a big map leads to has no part in it.
-/

set_option autoImplicit false

namespace StorageQuery

def Number.Wide (n : Int) : Prop := n < -9223372036854775808 ∨ 18446744073709551615 < n

theorem Number.wide_iff {n : Int} : Wide n ↔ ¬ Fits n := by
  unfold Wide Fits
  omega

theorem WidePolicy.narrow_eq_error_iff {policy : WidePolicy} {n : Int} {e : StorageError} :
    policy.narrow n = .error e ↔ policy = .strict ∧ Number.Wide n ∧ e = .tooWide n := by
  rw [Number.wide_iff]
  by_cases hfits : Number.Fits n
  · simp [policy.narrow_of_fits hfits, hfits]
  · rw [policy.narrow_of_not_fits hfits]
    cases policy <;> simp [hfits, eq_comm]

namespace Storage

def HasWide (value : Storage) : Prop := ∃ place n, value.at? place = some (.bigInt n) ∧ Number.Wide n

/-- The first wide integer in the order of the document. -/
def FirstWide (value : Storage) (place : Place) (n : Int) : Prop :=
  value.at? place = some (.bigInt n) ∧ Number.Wide n ∧
    ∀ place' n', value.at? place' = some (.bigInt n') → Number.Wide n' → place' = place ∨ place < place'

section
variable (policy : WidePolicy)

def refusals (value : Storage) : Faults StorageError := fun place e =>
  policy = .strict ∧ ∃ n, value.at? place = some (.bigInt n) ∧ Number.Wide n ∧ e = .tooWide n

variable {policy}

theorem refusals_of_parts {value : Storage} (h : ∀ n, value ≠ .bigInt n) :
    value.refusals policy = Faults.among (refusals policy) value.parts := by
  funext place e
  cases place with
  | nil => simp [refusals, at?, Faults.among, h]
  | cons i place =>
    rw [refusals, at?, Faults.among]
    cases value.parts[i]? <;> simp [refusals]

theorem refusals_bigInt (n : Int) :
    (Storage.bigInt n).refusals policy = Faults.alone fun e => policy.narrow n = .error e := by
  funext place e
  cases place with
  | nil =>
    rw [Faults.alone, WidePolicy.narrow_eq_error_iff]
    simp [refusals, at?]
  | cons i place => simp [refusals, at?, parts, Faults.alone]

theorem refusals_array (items : List Storage) :
    (Storage.array items).refusals policy = Faults.among (refusals policy) items :=
  refusals_of_parts (by simp)

theorem refusals_object (fields : List (String × Storage)) :
    (Storage.object fields).refusals policy = Faults.among (fun field => field.2.refusals policy) fields :=
  (refusals_of_parts (by simp)).trans (Faults.among_map ..)

theorem refusals_map (entries : List (Key × Storage)) :
    (Storage.map entries).refusals policy = Faults.among (fun entry => entry.2.refusals policy) entries :=
  (refusals_of_parts (by simp)).trans (Faults.among_map ..)

theorem stop_of_parts_eq_nil {value : Storage} (hvalue : ∀ n, value ≠ .bigInt n) (hparts : value.parts = [])
    (json : Json) : (value.refusals policy).Stop (.ok json) := by
  rw [refusals_of_parts hvalue, hparts]
  exact Faults.stop_nil json

mutual
theorem stop_toPlain : (value : Storage) → (value.refusals policy).Stop (value.toPlain policy)
  | .null => stop_of_parts_eq_nil (by simp) rfl _
  | .bool b => stop_of_parts_eq_nil (by simp) rfl _
  | .number n => stop_of_parts_eq_nil (by simp) rfl _
  | .bigInt n => by
    rw [refusals_bigInt]
    exact Faults.stop_reported _
  | .string s => stop_of_parts_eq_nil (by simp) rfl _
  | .bytes bs => stop_of_parts_eq_nil (by simp) rfl _
  | .array items => by
    rw [refusals_array]
    exact (stop_plainItems items).map Json.array
  | .object fields => by
    rw [refusals_object]
    exact (stop_plainFields fields).map Json.object
  | .map entries => by
    rw [refusals_map]
    exact (stop_plainEntries entries).map Json.array
  | .bigMap handle => stop_of_parts_eq_nil (by simp) rfl _
theorem stop_plainItems : (items : List Storage) →
    (Faults.among (refusals policy) items).Stop (plainItems policy items)
  | [] => Faults.stop_nil _
  | item :: rest => Faults.stop_cons (· :: ·) (stop_toPlain item) (stop_plainItems rest)
theorem stop_plainFields : (fields : List (String × Storage)) →
    (Faults.among (fun field => field.2.refusals policy) fields).Stop (plainFields policy fields)
  | [] => Faults.stop_nil _
  | (name, value) :: rest =>
    Faults.stop_cons (fun json members => (name, json) :: members) (stop_toPlain value)
      (stop_plainFields rest)
theorem stop_plainEntries : (entries : List (Key × Storage)) →
    (Faults.among (fun entry => entry.2.refusals policy) entries).Stop (plainEntries policy entries)
  | [] => Faults.stop_nil _
  | (key, value) :: rest =>
    Faults.stop_cons (fun json items => plainEntry key json :: items) (stop_toPlain value)
      (stop_plainEntries rest)
end

theorem toPlain_isError_iff {value : Storage} :
    (∃ e, value.toPlain policy = .error e) ↔ policy = .strict ∧ value.HasWide := by
  rw [(stop_toPlain value).isError_iff]
  constructor
  · rintro ⟨place, e, hstrict, n, hn, hwide, -⟩
    exact ⟨hstrict, place, n, hn, hwide⟩
  · rintro ⟨hstrict, place, n, hn, hwide⟩
    exact ⟨place, .tooWide n, hstrict, n, hn, hwide, rfl⟩

theorem first_refusals_iff {value : Storage} {place : Place} {e : StorageError} :
    (value.refusals policy).First place e ↔
      policy = .strict ∧ ∃ n, value.FirstWide place n ∧ e = .tooWide n := by
  constructor
  · rintro ⟨⟨hstrict, n, hn, hwide, he⟩, hleast⟩
    refine ⟨hstrict, n, ⟨hn, hwide, fun place' n' hn' hwide' => ?_⟩, he⟩
    exact (hleast place' _ ⟨hstrict, n', hn', hwide', rfl⟩).imp_left And.left
  · rintro ⟨hstrict, n, ⟨hn, hwide, hleast⟩, rfl⟩
    refine ⟨⟨hstrict, n, hn, hwide, rfl⟩, fun place' e' hrefusal => ?_⟩
    obtain ⟨-, n', hn', hwide', rfl⟩ := hrefusal
    rcases hleast place' n' hn' hwide' with rfl | hlt
    · cases hn.symm.trans hn'
      exact .inl ⟨rfl, rfl⟩
    · exact .inr hlt

theorem toPlain_eq_error_iff {value : Storage} {e : StorageError} :
    value.toPlain policy = .error e ↔
      policy = .strict ∧ ∃ place n, value.FirstWide place n ∧ e = .tooWide n := by
  rw [(stop_toPlain value).eq_error_iff]
  simp only [first_refusals_iff]
  constructor
  · rintro ⟨place, hstrict, n, h⟩
    exact ⟨hstrict, place, n, h⟩
  · rintro ⟨hstrict, place, n, h⟩
    exact ⟨place, hstrict, n, h⟩

end

section
variable (leads : BigMap → BigMap)

mutual
/-- Every big map leads elsewhere. -/
def redirect : Storage → Storage
  | .array items => .array (redirectItems items)
  | .object fields => .object (redirectFields fields)
  | .map entries => .map (redirectEntries entries)
  | .bigMap handle => .bigMap (leads handle)
  | value => value
def redirectItems : List Storage → List Storage
  | [] => []
  | item :: rest => redirect item :: redirectItems rest
def redirectFields : List (String × Storage) → List (String × Storage)
  | [] => []
  | (name, value) :: rest => (name, redirect value) :: redirectFields rest
def redirectEntries : List (Key × Storage) → List (Key × Storage)
  | [] => []
  | (key, value) :: rest => (key, redirect value) :: redirectEntries rest
end

theorem parts_redirect (value : Storage) : (value.redirect leads).parts = value.parts.map (redirect leads) := by
  cases value with
  | array items =>
    rw [redirect, parts, parts]
    induction items with
    | nil => rfl
    | cons item rest ih => rw [redirectItems, List.map_cons, ih]
  | object fields =>
    rw [redirect, parts, parts]
    induction fields with
    | nil => rfl
    | cons field rest ih => rw [redirectFields, List.map_cons, ih, List.map_cons, List.map_cons]
  | map entries =>
    rw [redirect, parts, parts]
    induction entries with
    | nil => rfl
    | cons entry rest ih => rw [redirectEntries, List.map_cons, ih, List.map_cons, List.map_cons]
  | _ => rfl

theorem at?_redirect (value : Storage) (place : Place) :
    (value.redirect leads).at? place = (value.at? place).map (redirect leads) := by
  induction place generalizing value with
  | nil => rfl
  | cons i place ih =>
    rw [at?, at?, parts_redirect, List.getElem?_map]
    cases value.parts[i]? with
    | none => rfl
    | some part => exact ih part

theorem redirect_eq_bigInt_iff {value : Storage} {n : Int} :
    value.redirect leads = .bigInt n ↔ value = .bigInt n := by
  cases value <;> simp [redirect]

theorem refusals_redirect (policy : WidePolicy) (value : Storage) :
    (value.redirect leads).refusals policy = value.refusals policy := by
  funext place e
  simp [refusals, at?_redirect, redirect_eq_bigInt_iff]

theorem toPlain_redirect_eq_error_iff {policy : WidePolicy} {value : Storage} {e : StorageError} :
    (value.redirect leads).toPlain policy = .error e ↔ value.toPlain policy = .error e := by
  rw [(stop_toPlain _).eq_error_iff, refusals_redirect, ← (stop_toPlain value).eq_error_iff]

end

end Storage

end StorageQuery
