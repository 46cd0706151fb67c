set_option autoImplicit false

namespace StorageQuery.Outcome

variable {ε α β : Type}

theorem bind_eq_ok_iff {outcome : Except ε α} {next : α → Except ε β} {b : β} :
    outcome >>= next = .ok b ↔ ∃ a, outcome = .ok a ∧ next a = .ok b := by
  cases outcome <;> simp [bind, Except.bind]

theorem map_eq_ok_iff {outcome : Except ε α} {f : α → β} {b : β} :
    outcome.map f = .ok b ↔ ∃ a, outcome = .ok a ∧ f a = b := by
  cases outcome <;> simp [Except.map]

theorem map_eq_error_iff {outcome : Except ε α} {f : α → β} :
    (∃ e, outcome.map f = .error e) ↔ ∃ e, outcome = .error e := by
  cases outcome <;> simp [Except.map]

theorem mapError_eq_ok_iff {δ : Type} {outcome : Except ε α} {f : ε → δ} {a : α} :
    outcome.mapError f = .ok a ↔ outcome = .ok a := by
  cases outcome with
  | error e => exact iff_of_false nofun nofun
  | ok b =>
    change (Except.ok b : Except δ α) = .ok a ↔ _
    rw [Except.ok.injEq, Except.ok.injEq]

theorem toOption_eq_some_iff {outcome : Except ε α} {a : α} :
    outcome.toOption = some a ↔ outcome = .ok a := by
  cases outcome <;> simp [Except.toOption]

end StorageQuery.Outcome
