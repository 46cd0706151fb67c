import StorageQuery.Json.Outline
import StorageQuery.Json.Reader
import StorageQuery.Proofs.Outcome
set_option autoImplicit false

namespace StorageQuery

namespace Reader

variable {limit : Nat} {state : State} {tokens rest : List Token} {json : Json}

theorem run_append (h : run limit state tokens = .ok (json, rest)) (more : List Token) :
    run limit state (tokens ++ more) = .ok (json, rest ++ more) := by
  fun_induction run limit state tokens with
  | case1 => contradiction
  | case2 => contradiction
  | case3 state token tokens state' hs ih =>
    rw [List.cons_append, run, hs]
    exact ih h
  | case4 state token tokens json' hs =>
    obtain ⟨rfl, rfl⟩ := Prod.mk.inj (Except.ok.inj h)
    rw [List.cons_append, run, hs]

theorem exists_of_run (h : run limit state tokens = .ok (json, rest)) :
    ∃ used, tokens = used ++ rest ∧ run limit state used = .ok (json, []) := by
  fun_induction run limit state tokens with
  | case1 => contradiction
  | case2 => contradiction
  | case3 state token tokens state' hs ih =>
    obtain ⟨used, rfl, hused⟩ := ih h
    refine ⟨token :: used, rfl, ?_⟩
    rw [run, hs]
    exact hused
  | case4 state token tokens json' hs =>
    obtain ⟨rfl, rfl⟩ := Prod.mk.inj (Except.ok.inj h)
    refine ⟨[token], rfl, ?_⟩
    rw [run, hs]

theorem value_eq_ok_iff : value limit tokens = .ok (json, rest) ↔
    ∃ used, tokens = used ++ rest ∧ value limit used = .ok (json, []) := by
  simp only [value, Outcome.mapError_eq_ok_iff]
  constructor
  · exact exists_of_run
  · rintro ⟨used, rfl, h⟩
    exact run_append h rest

end Reader

namespace Outline

variable {state : State} {tokens rest : List Token}

theorem run_append (h : run state tokens = .ok rest) (more : List Token) :
    run state (tokens ++ more) = .ok (rest ++ more) := by
  fun_induction run state tokens with
  | case1 => contradiction
  | case2 => contradiction
  | case3 state token tokens state' hs ih =>
    rw [List.cons_append, run, hs]
    exact ih h
  | case4 state token tokens hs =>
    obtain rfl := Except.ok.inj h
    rw [List.cons_append, run, hs]

theorem exists_of_run (h : run state tokens = .ok rest) :
    ∃ used, tokens = used ++ rest ∧ run state used = .ok [] := by
  fun_induction run state tokens with
  | case1 => contradiction
  | case2 => contradiction
  | case3 state token tokens state' hs ih =>
    obtain ⟨used, rfl, hused⟩ := ih h
    refine ⟨token :: used, rfl, ?_⟩
    rw [run, hs]
    exact hused
  | case4 state token tokens hs =>
    obtain rfl := Except.ok.inj h
    refine ⟨[token], rfl, ?_⟩
    rw [run, hs]

theorem skip_eq_ok_iff : skip tokens = .ok rest ↔
    ∃ used, tokens = used ++ rest ∧ skip used = .ok [] := by
  constructor
  · exact exists_of_run
  · rintro ⟨used, rfl, h⟩
    exact run_append h rest

end Outline

namespace Json

theorem read_eq_ok_iff {text : String} {json : Json} :
    read text = .ok json ↔ ∃ tree, readFirst text = .ok (tree, []) ∧ tree.collapse = json := by
  rw [read, readAs]
  cases readFirst text with
  | error stop => exact iff_of_false nofun nofun
  | ok result =>
    obtain ⟨tree, rest⟩ := result
    cases rest with
    | nil => simp
    | cons token rest => simp

/-- If a value stands at the start of the text, none of its objects repeats a member, at any depth. -/
def Unrepeated (text : String) : Prop := ∀ tree rest, readFirst text = .ok (tree, rest) → tree.Collapsed

end Json

end StorageQuery
