import StorageQuery.Proofs.Answer.Reading
import StorageQuery.Proofs.Work.Prompt
set_option autoImplicit false

namespace StorageQuery

def Selector.AtHand (root : Storage) : Selector → Prop
  | .path _ => True
  | .keys name requests => (∀ handle, root.field? name ≠ some (.bigMap handle)) ∧
      ∀ request ∈ requests, request.selectors? = none

namespace Evaluation

variable (policy : WidePolicy) (delays : Delays)

theorem prompt_map {α β : Type} (f : α → β) {work : Work α} (h : work.Prompt delays) :
    (work.map f).Prompt delays :=
  ⟨h, fun _ => trivial⟩

theorem prompt_plain (value : Storage) : (plain policy value).Prompt delays :=
  ⟨trivial, fun _ => trivial⟩

theorem prompt_pathResult (root : Storage) (path : Path) :
    (pathResult policy root path).Prompt delays := by
  unfold pathResult
  split
  · trivial
  · trivial
  · exact prompt_map delays _ (prompt_plain policy delays _)

theorem prompt_row {container : Storage} (hc : ∀ handle, container ≠ .bigMap handle) {request : Request}
    (hr : request.selectors? = none) : (row policy container request).Prompt delays := by
  cases request with
  | within key selectors => cases hr
  | whole key =>
    have hlookup : (lookup container key).Prompt delays := by
      cases container with
      | bigMap handle => exact absurd rfl (hc handle)
      | _ => trivial
    refine ⟨hlookup, fun found => ?_⟩
    cases found with
    | none => trivial
    | some found => exact prompt_map delays _ (prompt_plain policy delays found)

theorem prompt_rows {container : Storage} (hc : ∀ handle, container ≠ .bigMap handle)
    {requests : List Request} (hr : ∀ request ∈ requests, request.selectors? = none) (i : Nat) :
    (rows policy container requests).Prompt delays i := by
  induction requests generalizing i with
  | nil => trivial
  | cons request rest ih =>
    obtain ⟨hfirst, hrest⟩ := List.forall_mem_cons.1 hr
    exact ⟨prompt_map _ _ (prompt_row policy _ hc hfirst), ih hrest (i + 1)⟩

theorem prompt_field {root : Storage} {selector : Selector} (h : selector.AtHand root) :
    (field policy root selector).Prompt delays := by
  cases selector with
  | path path => exact prompt_pathResult policy delays root path
  | keys name requests =>
    obtain ⟨hfield, hrequests⟩ := h
    rw [field]
    split
    · trivial
    · trivial
    · rename_i value _ hvalue
      have hc : ∀ handle, value ≠ .bigMap handle := fun handle heq => hfield handle (heq ▸ hvalue)
      split
      · exact ⟨trivial, fun _ => prompt_map delays _ (prompt_rows policy delays hc hrequests 0)⟩
      · trivial

theorem prompt_fields {root : Storage} {selectors : List Selector}
    (h : ∀ selector ∈ selectors, selector.AtHand root) (i : Nat) :
    (fields policy root selectors).Prompt delays i := by
  induction selectors generalizing i with
  | nil => trivial
  | cons selector rest ih =>
    obtain ⟨hfirst, hrest⟩ := List.forall_mem_cons.1 h
    rw [fields]
    split
    · exact ih hrest i
    · exact ⟨prompt_map _ _ (prompt_field policy _ hfirst), ih hrest (i + 1)⟩

end Evaluation

theorem Storage.outcome_answer_of_atHand {remote : Remote} {policy : WidePolicy} {root : Storage}
    {selectors : List Selector} (h : ∀ selector ∈ selectors, selector.AtHand root) :
    (root.answer remote policy selectors).outcome =
      Reading.level remote.contents policy root selectors := by
  have hprompt : (Evaluation.level policy root selectors).Prompt remote.delays :=
    Evaluation.prompt_fields policy remote.delays h 0
  rw [outcome_answer, select, Work.outcome_run_of_prompt remote.contents hprompt]
  exact Evaluation.values_fields remote.contents policy root selectors

end StorageQuery
