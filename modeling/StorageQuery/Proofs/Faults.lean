import StorageQuery.Proofs.Outcome
/-!
Faults of a tree, each at its place, and computations that go through the tree in order. Such a computation
ends with the first fault, and succeeds if there is none.
-/

set_option autoImplicit false

namespace StorageQuery

/-- The index of a part, then that of a part within it, and so on. A place comes before those within it, and
those within a part before those within a later one. -/
abbrev Place := List Nat

abbrev Faults (ε : Type) := Place → ε → Prop

namespace Faults

variable {ε α β γ : Type}

def First (faults : Faults ε) (place : Place) (e : ε) : Prop :=
  faults place e ∧ ∀ place' e', faults place' e' → place' = place ∧ e' = e ∨ place < place'

/-- The first fault, or else nothing, ends the computation. -/
def Stop (faults : Faults ε) : Except ε α → Prop
  | .ok _ => ∀ place e, ¬ faults place e
  | .error e => ∃ place, faults.First place e

/-- The faults of the parts of a tree, each below the index of its part. -/
def among (of : α → Faults ε) (parts : List α) : Faults ε
  | [], _ => False
  | i :: place, e => ∃ part, parts[i]? = some part ∧ of part place e

def above (own : ε → Prop) (of : α → Faults ε) (parts : List α) : Faults ε
  | [], e => own e
  | i :: place, e => among of parts (i :: place) e

def alone (own : ε → Prop) : Faults ε
  | [], e => own e
  | _ :: _, _ => False

theorem among_cons_zero {of : α → Faults ε} {part : α} {parts : List α} {place : Place} {e : ε} :
    among of (part :: parts) (0 :: place) e ↔ of part place e := by
  simp [among]

theorem among_cons_succ {of : α → Faults ε} {part : α} {parts : List α} {i : Nat} {place : Place} {e : ε} :
    among of (part :: parts) ((i + 1) :: place) e ↔ among of parts (i :: place) e := by
  simp [among]

theorem not_among_nil {of : α → Faults ε} {place : Place} {e : ε} : ¬ among of [] place e := by
  cases place with
  | nil => exact id
  | cons i place => simp [among]

theorem eq_alone {faults : Faults ε} {own : ε → Prop} (h : ∀ place e, faults place e ↔ place = [] ∧ own e) :
    faults = alone own := by
  funext place e
  rw [h]
  cases place with
  | nil => exact propext (and_iff_right rfl)
  | cons i place => exact propext (iff_of_false (fun hfault => nomatch hfault.1) id)

theorem among_map (f : β → α) (of : α → Faults ε) (parts : List β) :
    among of (parts.map f) = among (fun part => of (f part)) parts := by
  funext place e
  cases place with
  | nil => rfl
  | cons i place =>
    rw [among, among, List.getElem?_map]
    cases parts[i]? <;> simp

theorem First.unique {faults : Faults ε} {place place' : Place} {e e' : ε} (h : faults.First place e)
    (h' : faults.First place' e') : place' = place ∧ e' = e := by
  rcases h.2 place' e' h'.1 with heq | hlt
  · exact heq
  · rcases h'.2 place e h.1 with ⟨rfl, rfl⟩ | hlt'
    · exact ⟨rfl, rfl⟩
    · exact absurd hlt' (List.lt_asymm hlt)

theorem first_among_zero {of : α → Faults ε} {part : α} {parts : List α} {place : Place} {e : ε} :
    (among of (part :: parts)).First (0 :: place) e ↔ (of part).First place e := by
  constructor
  · rintro ⟨hfault, hleast⟩
    refine ⟨among_cons_zero.1 hfault, fun place' e' hfault' => ?_⟩
    rcases hleast (0 :: place') e' (among_cons_zero.2 hfault') with ⟨hplace, he⟩ | hlt
    · exact .inl ⟨(List.cons.inj hplace).2, he⟩
    · rw [List.cons_lt_cons_iff] at hlt
      exact .inr (hlt.resolve_left (Nat.lt_irrefl 0)).2
  · rintro ⟨hfault, hleast⟩
    refine ⟨among_cons_zero.2 hfault, fun place' e' hfault' => ?_⟩
    match place' with
    | [] => exact hfault'.elim
    | 0 :: place' =>
      rcases hleast place' e' (among_cons_zero.1 hfault') with ⟨rfl, rfl⟩ | hlt
      · exact .inl ⟨rfl, rfl⟩
      · exact .inr (List.cons_lt_cons_iff.2 (.inr ⟨rfl, hlt⟩))
    | (i + 1) :: place' => exact .inr (List.cons_lt_cons_iff.2 (.inl i.succ_pos))

theorem first_among_succ {of : α → Faults ε} {part : α} {parts : List α} {i : Nat} {place : Place} {e : ε} :
    (among of (part :: parts)).First ((i + 1) :: place) e ↔
      (∀ place' e', ¬ of part place' e') ∧ (among of parts).First (i :: place) e := by
  constructor
  · rintro ⟨hfault, hleast⟩
    refine ⟨fun place' e' hfault' => ?_, among_cons_succ.1 hfault, fun place' e' hfault' => ?_⟩
    · rcases hleast (0 :: place') e' (among_cons_zero.2 hfault') with ⟨hplace, -⟩ | hlt
      · cases hplace
      · rw [List.cons_lt_cons_iff] at hlt
        omega
    · match place' with
      | [] => exact hfault'.elim
      | j :: place' =>
        rcases hleast ((j + 1) :: place') e' (among_cons_succ.2 hfault') with ⟨hplace, he⟩ | hlt
        · cases hplace
          exact .inl ⟨rfl, he⟩
        · rw [List.cons_lt_cons_iff, Nat.add_lt_add_iff_right, Nat.add_right_cancel_iff] at hlt
          exact .inr (List.cons_lt_cons_iff.2 hlt)
  · rintro ⟨hnone, hfault, hleast⟩
    refine ⟨among_cons_succ.2 hfault, fun place' e' hfault' => ?_⟩
    match place' with
    | [] => exact hfault'.elim
    | 0 :: place' => exact absurd (among_cons_zero.1 hfault') (hnone place' e')
    | (j + 1) :: place' =>
      rcases hleast (j :: place') e' (among_cons_succ.1 hfault') with ⟨hplace, he⟩ | hlt
      · cases hplace
        exact .inl ⟨rfl, he⟩
      · rw [List.cons_lt_cons_iff] at hlt
        refine .inr (List.cons_lt_cons_iff.2 ?_)
        rwa [Nat.add_lt_add_iff_right, Nat.add_right_cancel_iff]

theorem first_among_append {of : α → Faults ε} {before after : List α} {part : α} {place : Place} {e : ε} :
    (among of (before ++ part :: after)).First (before.length :: place) e ↔
      (∀ earlier ∈ before, ∀ place' e', ¬ of earlier place' e') ∧ (of part).First place e := by
  induction before with
  | nil => simp [first_among_zero]
  | cons earlier before ih =>
    rw [List.cons_append, List.length_cons, first_among_succ, ih, List.forall_mem_cons, and_assoc]

theorem first_above_nil {own : ε → Prop} {of : α → Faults ε} {parts : List α} {e : ε} :
    (above own of parts).First [] e ↔ own e ∧ ∀ e', own e' → e' = e := by
  constructor
  · rintro ⟨hown, hleast⟩
    refine ⟨hown, fun e' hown' => ?_⟩
    rcases hleast [] e' hown' with ⟨-, he⟩ | hlt
    · exact he
    · exact absurd hlt (List.lt_irrefl [])
  · rintro ⟨hown, hsingle⟩
    refine ⟨hown, fun place' e' hfault' => ?_⟩
    match place' with
    | [] => exact .inl ⟨rfl, hsingle e' hfault'⟩
    | i :: place' => exact .inr (List.nil_lt_cons i place')

theorem first_above_cons {own : ε → Prop} {of : α → Faults ε} {parts : List α} {i : Nat} {place : Place}
    {e : ε} :
    (above own of parts).First (i :: place) e ↔
      (∀ e', ¬ own e') ∧ (among of parts).First (i :: place) e := by
  constructor
  · rintro ⟨hfault, hleast⟩
    refine ⟨fun e' hown' => ?_, hfault, fun place' e' hfault' => ?_⟩
    · rcases hleast [] e' hown' with ⟨hplace, -⟩ | hlt
      · cases hplace
      · cases hlt
    · match place' with
      | [] => exact hfault'.elim
      | j :: place' => exact hleast (j :: place') e' hfault'
  · rintro ⟨hnone, hfault, hleast⟩
    refine ⟨hfault, fun place' e' hfault' => ?_⟩
    match place' with
    | [] => exact absurd hfault' (hnone e')
    | j :: place' => exact hleast (j :: place') e' hfault'

/-! Which computations are ended by the first fault. -/

theorem Stop.map {faults : Faults ε} {outcome : Except ε α} (h : faults.Stop outcome) (f : α → β) :
    faults.Stop (outcome.map f) := by
  cases outcome with
  | ok a => exact h
  | error e => exact h

theorem stop_nil {of : α → Faults ε} (b : β) : (among of []).Stop (.ok b) :=
  fun _ _ => not_among_nil

theorem stop_cons {of : α → Faults ε} {part : α} {parts : List α} {first : Except ε β}
    {others : Except ε γ} {δ : Type} (f : β → γ → δ) (hfirst : (of part).Stop first)
    (hothers : (among of parts).Stop others) :
    (among of (part :: parts)).Stop (do let b ← first; let c ← others; return f b c) := by
  cases first with
  | error e =>
    obtain ⟨place, hplace⟩ := hfirst
    exact ⟨0 :: place, first_among_zero.2 hplace⟩
  | ok b =>
    cases others with
    | error e =>
      obtain ⟨place, hplace⟩ := hothers
      match place with
      | [] => exact hplace.1.elim
      | i :: place => exact ⟨(i + 1) :: place, first_among_succ.2 ⟨hfirst, hplace⟩⟩
    | ok c =>
      intro place e hfault
      match place with
      | [] => exact hfault
      | 0 :: place => exact hfirst place e (among_cons_zero.1 hfault)
      | (i + 1) :: place => exact hothers (i :: place) e (among_cons_succ.1 hfault)

theorem stop_single {of : α → Faults ε} {part : α} {outcome : Except ε β} (h : (of part).Stop outcome) :
    (among of [part]).Stop outcome := by
  have hnil : (among of []).Stop (.ok ()) := stop_nil ()
  have hcons := stop_cons (fun b _ => b) h hnil
  cases outcome with
  | ok b => exact hcons
  | error e => exact hcons

theorem stop_above {own : ε → Prop} {of : α → Faults ε} {parts : List α} {first : Except ε β}
    {others : Except ε γ} {δ : Type} (f : β → γ → δ) (hfirst : ∀ e, own e ↔ first = .error e)
    (hothers : (among of parts).Stop others) :
    (above own of parts).Stop (do let b ← first; let c ← others; return f b c) := by
  cases first with
  | error e =>
    refine ⟨[], first_above_nil.2 ⟨(hfirst e).2 rfl, fun e' hown => ?_⟩⟩
    exact (Except.error.inj ((hfirst e').1 hown)).symm
  | ok b =>
    have hnone : ∀ e, ¬ own e := fun e hown => nomatch (hfirst e).1 hown
    cases others with
    | error e =>
      obtain ⟨place, hplace⟩ := hothers
      match place with
      | [] => exact hplace.1.elim
      | i :: place => exact ⟨i :: place, first_above_cons.2 ⟨hnone, hplace⟩⟩
    | ok c =>
      intro place e hfault
      match place with
      | [] => exact hnone e hfault
      | i :: place => exact hothers (i :: place) e hfault

theorem stop_alone {own : ε → Prop} {outcome : Except ε α} (h : ∀ e, own e ↔ outcome = .error e) :
    (alone own).Stop outcome := by
  cases outcome with
  | ok a =>
    intro place e hfault
    match place with
    | [] => exact nomatch (h e).1 hfault
    | _ :: _ => exact hfault
  | error e =>
    refine ⟨[], (h e).2 rfl, fun place' e' hfault' => ?_⟩
    match place' with
    | [] => exact .inl ⟨rfl, (Except.error.inj ((h e').1 hfault')).symm⟩
    | _ :: _ => exact hfault'.elim

theorem stop_reported (outcome : Except ε α) : (alone fun e => outcome = .error e).Stop outcome :=
  stop_alone fun _ => Iff.rfl

section
variable {faults : Faults ε} {outcome : Except ε α} (h : faults.Stop outcome)
include h

theorem Stop.eq_error_iff {e : ε} : outcome = .error e ↔ ∃ place, faults.First place e := by
  cases outcome with
  | ok a => exact iff_of_false nofun fun ⟨place, hplace⟩ => h place e hplace.1
  | error e' =>
    refine ⟨fun heq => Except.error.inj heq ▸ h, fun ⟨place, hplace⟩ => ?_⟩
    obtain ⟨place', hplace'⟩ := h
    rw [(hplace.unique hplace').2]

theorem Stop.isOk_iff : (∃ a, outcome = .ok a) ↔ ∀ place e, ¬ faults place e := by
  cases outcome with
  | ok a => exact iff_of_true ⟨a, rfl⟩ h
  | error e =>
    obtain ⟨place, hplace⟩ := h
    exact iff_of_false nofun fun hnone => hnone place e hplace.1

theorem Stop.isError_iff : (∃ e, outcome = .error e) ↔ ∃ place e, faults place e := by
  cases outcome with
  | ok a => exact iff_of_false nofun fun ⟨place, e, hfault⟩ => h place e hfault
  | error e =>
    obtain ⟨place, hplace⟩ := h
    exact iff_of_true ⟨e, rfl⟩ ⟨place, e, hplace.1⟩

end

end Faults

end StorageQuery
