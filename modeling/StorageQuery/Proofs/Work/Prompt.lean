import StorageQuery.Answer.Work
/-!
Work that never has to wait, since no look-up in it takes time. Its first turn ends it, with what it comes to
when its parts are done one after the other: a failure too is that of the first part that fails, whether
siblings are patient or not.
-/

set_option autoImplicit false

namespace StorageQuery

mutual
/-- No look-up in the work takes time. -/
def Work.Prompt : {α : Type} → Delays → Work α → Prop
  | _, delays, .ask pointer key => delays [] pointer key = 0
  | _, _, .waiting _ _ _ => False
  | _, delays, .andThen first next => first.Prompt delays ∧ ∀ a, (next a).Prompt delays
  | _, delays, .all _ siblings => siblings.Prompt delays 0
  | _, _, .ended _ | _, _, .note _ => True
def Siblings.Prompt : {α : Type} → Delays → Nat → Siblings α → Prop
  | _, _, _, .nil => True
  | _, delays, i, .cons first rest => first.Prompt (delays.below i) ∧ rest.Prompt delays (i + 1)
end

mutual
theorem Work.poll_of_prompt (contents : Contents) (now : Nat) : {α : Type} → (delays : Delays) →
    (work : Work α) → work.Prompt delays →
    (work.poll contents now delays).2 = .ended (work.value contents)
  | _, _, .ended _, _ => rfl
  | _, _, .note _, _ => rfl
  | _, delays, .ask pointer key, h => by
    have h : delays [] pointer key = 0 := h
    simp [Work.poll, h, Work.value]
  | _, delays, .andThen first next, h => by
    have hf := Work.poll_of_prompt contents now delays first h.1
    generalize hp : first.poll contents now delays = turn at hf
    obtain ⟨events, rest⟩ := turn
    obtain rfl : rest = .ended (first.value contents) := hf
    rw [Work.poll, Work.value, hp]
    cases hv : first.value contents with
    | error e => rfl
    | ok a => exact Work.poll_of_prompt contents now delays (next a) (h.2 a)
  | _, delays, .all patient siblings, h => by
    have hs := Siblings.poll_of_prompt contents now patient delays 0 siblings h
    generalize hp : siblings.poll contents now delays patient true 0 = turn at hs
    obtain ⟨events, after⟩ := turn
    rw [Work.poll, Work.value, hp]
    cases hv : siblings.values contents with
    | error e =>
      rw [hv] at hs
      obtain rfl : after = .error e := hs
      rfl
    | ok results =>
      rw [hv] at hs
      obtain ⟨rest, hrest, hresults⟩ := hs
      obtain rfl : after = .ok rest := hrest
      simp only [Siblings.gather, hresults]
/-- All siblings before the first that fails have succeeded when it does, so that patience makes no
difference. -/
theorem Siblings.poll_of_prompt (contents : Contents) (now : Nat) (patient : Bool) : {α : Type} →
    (delays : Delays) → (i : Nat) → (siblings : Siblings α) → siblings.Prompt delays i →
    match siblings.values contents with
    | .ok results => ∃ rest, (siblings.poll contents now delays patient true i).2 = .ok rest ∧
        rest.results? = some results
    | .error e => (siblings.poll contents now delays patient true i).2 = .error e
  | _, _, _, .nil, _ => ⟨.nil, rfl, rfl⟩
  | _, delays, i, .cons first rest, h => by
    have hf := Work.poll_of_prompt contents now (delays.below i) first h.1
    have hr := Siblings.poll_of_prompt contents now patient delays (i + 1) rest h.2
    generalize hp : first.poll contents now (delays.below i) = turn at hf
    obtain ⟨events, ended⟩ := turn
    obtain rfl : ended = .ended (first.value contents) := hf
    rw [Siblings.poll, Siblings.values, hp]
    cases hv : first.value contents with
    | error e => simp [Work.halt?]
    | ok a =>
      simp only [Work.halt?, Work.succeeded, Bool.and_self]
      generalize rest.poll contents now delays patient true (i + 1) = turn at hr
      cases hvs : rest.values contents with
      | error e =>
        rw [hvs] at hr
        simp [hr, Except.map]
      | ok results =>
        rw [hvs] at hr
        obtain ⟨rest', hrest, hresults⟩ := hr
        exact ⟨.cons (.ended (.ok a)) rest', by rw [hrest]; rfl, by rw [Siblings.results?, hresults]; rfl⟩
end

theorem Work.outcome_run_of_prompt {α : Type} (contents : Contents) {delays : Delays} {now : Nat}
    {work : Work α} (h : work.Prompt delays) :
    (work.run contents delays now).outcome = work.value contents := by
  cases ho : work.outcome? with
  | some outcome =>
    obtain rfl := Work.outcome?_eq_some.1 ho
    rw [Work.run_of_outcome contents delays now ho]
    rfl
  | none =>
    have hpoll := Work.poll_of_prompt contents (work.instant now) delays work h
    rw [Work.run_of_pending contents delays now ho, hpoll, Work.run_of_outcome contents delays _ rfl]
    rfl

end StorageQuery
