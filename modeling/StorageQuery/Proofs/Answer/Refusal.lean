import StorageQuery.Proofs.Answer.Timing
import StorageQuery.Proofs.Storage.Refusal
set_option autoImplicit false

namespace StorageQuery

mutual
/-- A value that a selector shows, in maps that are at hand. -/
inductive Selector.Selects : Storage → Selector → Storage → Prop where
  | path {root value : Storage} {path : Path} (asks : path.isEmpty = false)
    (found : root.get? path = some value) : Selector.Selects root (.path path) value
  | keys {root value : Storage} {name : String} {entries : List (Key × Storage)} {requests : List Request}
    {request : Request} (found : root.field? name = some (.map entries)) (member : request ∈ requests)
    (selects : Request.Selects entries request value) : Selector.Selects root (.keys name requests) value
inductive Request.Selects : List (Key × Storage) → Request → Storage → Prop where
  | whole {entries : List (Key × Storage)} {key : Key} {value : Storage}
    (found : Table.find? Key.same key entries = some value) : Request.Selects entries (.whole key) value
  | within {entries : List (Key × Storage)} {key : Key} {inner value : Storage} {selectors : List Selector}
    {selector : Selector} (found : Table.find? Key.same key entries = some inner)
    (member : selector ∈ selectors) (selects : Selector.Selects inner selector value) :
    Request.Selects entries (.within key selectors) value
end

namespace Storage

theorem HasWide.of_within {value root : Storage} (h : value.HasWide) (hwithin : value.Within root) :
    root.HasWide := by
  obtain ⟨place, n, hn, hwide⟩ := h
  obtain ⟨place', hplace'⟩ := Within.trans ⟨place, hn⟩ hwithin
  exact ⟨place', n, hplace', hwide⟩

/-- No part of it is kept elsewhere. -/
def Local (root : Storage) : Prop := ∀ handle, ¬ (Storage.bigMap handle).Within root

theorem Local.of_within {value root : Storage} (h : root.Local) (hwithin : value.Within root) : value.Local :=
  fun handle hhandle => h handle (hhandle.trans hwithin)

end Storage

mutual
theorem Selector.Selects.within_root {root value : Storage} {selector : Selector} :
    selector.Selects root value → value.Within root
  | .path _ found => Storage.within_of_get? found
  | .keys found _ selects => selects.within_map.trans (Storage.within_of_field? found)
theorem Request.Selects.within_map {entries : List (Key × Storage)} {value : Storage} {request : Request} :
    request.Selects entries value → value.Within (.map entries)
  | .whole found => Storage.within_of_find? found
  | .within found _ selects => selects.within_root.trans (Storage.within_of_find? found)
end

section
variable {contents : Contents} {policy : WidePolicy}

mutual
theorem Selector.Fails.exists_selects {root : Storage} {selector : Selector} (hlocal : root.Local) :
    selector.Fails contents policy root →
      ∃ value, selector.Selects root value ∧ ∃ e, value.toPlain policy = .error e
  | .path asks found refused => ⟨_, .path asks found, _, refused⟩
  | .keys found entered member fails => by
    obtain ⟨entries, rfl⟩ | ⟨handle, rfl⟩ := Storage.isContainer_eq_true_iff.1 entered
    · obtain ⟨value, hselects, hrefused⟩ :=
        Request.Fails.exists_selects (hlocal.of_within (Storage.within_of_field? found)) fails
      exact ⟨value, .keys found member hselects, hrefused⟩
    · exact absurd (Storage.within_of_field? found) (hlocal handle)
theorem Request.Fails.exists_selects {entries : List (Key × Storage)} {request : Request}
    (hlocal : (Storage.map entries).Local) :
    request.Fails contents policy (.map entries) →
      ∃ value, request.Selects entries value ∧ ∃ e, value.toPlain policy = .error e
  | .lookup find => nomatch find
  | .value find refused => ⟨_, .whole (Except.ok.inj find), _, refused⟩
  | .nested find member fails => by
    have found := Except.ok.inj find
    obtain ⟨value, hselects, hrefused⟩ :=
      Selector.Fails.exists_selects (hlocal.of_within (Storage.within_of_find? found)) fails
    exact ⟨value, .within found member hselects, hrefused⟩
end

mutual
theorem Selector.Selects.fails {root value : Storage} {selector : Selector} {e : StorageError}
    (refused : value.toPlain policy = .error e) :
    selector.Selects root value → selector.Fails contents policy root
  | .path asks found => .path asks found refused
  | .keys found member selects => .keys found rfl member (selects.fails refused)
theorem Request.Selects.fails {entries : List (Key × Storage)} {value : Storage} {request : Request}
    {e : StorageError} (refused : value.toPlain policy = .error e) :
    request.Selects entries value → request.Fails contents policy (.map entries)
  | .whole found => .value (congrArg Except.ok found) refused
  | .within found member selects => .nested (congrArg Except.ok found) member (selects.fails refused)
end

end

/-- Only integers of more than 64 bits are refused, only by the strict policy, and the error names the first of
them. Wherever big maps lead makes no difference. So what is selected from a storage without big maps fails
just when a value selected holds such an integer, and never if the whole can be shown. -/
theorem Storage.only_wide_refused (policy : WidePolicy) (root : Storage) :
    ((∃ e, root.toPlain policy = .error e) ↔ policy = .strict ∧ root.HasWide) ∧
    (∀ e, root.toPlain policy = .error e ↔ policy = .strict ∧ ∃ place n, root.FirstWide place n ∧
      e = .unrepresentable (String.ofList (Decimal.ofInt n) ++ " does not fit a 64-bit integer")) ∧
    (∀ leads e, (root.redirect leads).toPlain policy = .error e ↔ root.toPlain policy = .error e) ∧
    (policy ≠ .strict → ∃ json, root.toPlain policy = .ok json) ∧
    (root.Local → ∀ remote selectors,
      ((∃ e, (root.answer remote policy selectors).outcome = .error e) ↔
        policy = .strict ∧ ∃ selector ∈ selectors, ∃ value, selector.Selects root value ∧ value.HasWide) ∧
      (∀ json, (root.render policy).outcome = .ok json →
        ∃ answer, (root.answer remote policy selectors).outcome = .ok answer)) := by
  refine ⟨toPlain_isError_iff, fun e => ?_, fun leads e => toPlain_redirect_eq_error_iff leads, fun h => ?_,
    fun hlocal remote selectors => ?_⟩
  · exact toPlain_eq_error_iff
  · cases hplain : root.toPlain policy with
    | ok json => exact ⟨json, rfl⟩
    | error e => exact absurd (toPlain_isError_iff.1 ⟨e, hplain⟩).1 h
  · have hfails : (∃ e, (root.answer remote policy selectors).outcome = .error e) ↔
        policy = .strict ∧ ∃ selector ∈ selectors, ∃ value, selector.Selects root value ∧ value.HasWide := by
      rw [outcome_answer, outcome_select_isError_iff, Reading.level_eq_error_iff]
      constructor
      · rintro ⟨selector, hmem, hfails⟩
        obtain ⟨value, hselects, hrefused⟩ := Selector.Fails.exists_selects hlocal hfails
        obtain ⟨hstrict, hwide⟩ := toPlain_isError_iff.1 hrefused
        exact ⟨hstrict, selector, hmem, value, hselects, hwide⟩
      · rintro ⟨hstrict, selector, hmem, value, hselects, hwide⟩
        obtain ⟨e, hrefused⟩ := toPlain_isError_iff.2 ⟨hstrict, hwide⟩
        exact ⟨selector, hmem, hselects.fails hrefused⟩
    refine ⟨hfails, fun json hrender => ?_⟩
    rw [outcome_render] at hrender
    cases houtcome : (root.answer remote policy selectors).outcome with
    | ok answer => exact ⟨answer, rfl⟩
    | error e =>
      obtain ⟨hstrict, selector, -, value, hselects, hwide⟩ := hfails.1 ⟨e, houtcome⟩
      obtain ⟨e', he'⟩ := toPlain_isError_iff.2 ⟨hstrict, hwide.of_within hselects.within_root⟩
      rw [hrender] at he'
      cases he'

end StorageQuery
