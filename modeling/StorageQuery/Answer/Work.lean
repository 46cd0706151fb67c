import StorageQuery.Answer.Event
/-!
Work that may have to wait. Work is done in turns: in a turn it goes as far as it can at the instant,
and all that it waits for are look-ups in big maps. Siblings are worked at side by side, each getting
its turn in their order, until one of them fails.

A run gives turns until the work has ended, at the first instant and then whenever a look-up is over.
It ends because each of its turns takes weight from the work (`Work.weight_poll_lt`).
-/

set_option autoImplicit false

namespace StorageQuery

mutual
inductive Work : Type → Type 1 where
  | ended {α : Type} (outcome : Except StorageError α) : Work α
  | note (notes : List Note) : Work Unit
  /-- A look-up that has not begun. -/
  | ask (pointer : String) (key : Key) : Work (Option Storage)
  /-- A look-up that is over at the instant `due`. -/
  | waiting (due : Nat) (pointer : String) (key : Key) : Work (Option Storage)
  | andThen {α β : Type} (first : Work α) (next : α → Work β) : Work β
  /-- The results of all siblings. Patient ones end with a failure only when all before the one that
  failed have succeeded, others at once. -/
  | all {α : Type} (patient : Bool) (siblings : Siblings α) : Work (List α)
inductive Siblings : Type → Type 1 where
  | nil {α : Type} : Siblings α
  | cons {α : Type} (first : Work α) (rest : Siblings α) : Siblings α
end

mutual
/-- What the work comes to when its parts are done one after the other. -/
def Work.value (contents : Contents) : {α : Type} → Work α → Except StorageError α
  | _, .ended outcome => outcome
  | _, .note _ => .ok ()
  | _, .ask pointer key => contents pointer key
  | _, .waiting _ pointer key => contents pointer key
  | _, .andThen first next =>
    match first.value contents with
    | .ok a => (next a).value contents
    | .error e => .error e
  | _, .all _ siblings => siblings.values contents
def Siblings.values (contents : Contents) : {α : Type} → Siblings α → Except StorageError (List α)
  | _, .nil => .ok []
  | _, .cons first rest =>
    match first.value contents with
    | .ok a => (rest.values contents).map (a :: ·)
    | .error e => .error e
end

mutual
/-- A bound on the turns that bring the work further. -/
def Work.weight (contents : Contents) : {α : Type} → Work α → Nat
  | _, .ended _ => 0
  | _, .note _ => 1
  | _, .ask _ _ => 2
  | _, .waiting _ _ _ => 1
  | _, .andThen first next =>
    first.weight contents + 1 +
      match first.value contents with
      | .ok a => (next a).weight contents
      | .error _ => 0
  | _, .all _ siblings => siblings.weight contents + 1
def Siblings.weight (contents : Contents) : {α : Type} → Siblings α → Nat
  | _, .nil => 0
  | _, .cons first rest => first.weight contents + rest.weight contents
end

mutual
/-- The first instant at which a look-up is over. -/
def Work.due? : {α : Type} → Work α → Option Nat
  | _, .waiting due _ _ => some due
  | _, .andThen first _ => first.due?
  | _, .all _ siblings => siblings.due?
  | _, .ended _ | _, .note _ | _, .ask _ _ => none
def Siblings.due? : {α : Type} → Siblings α → Option Nat
  | _, .nil => none
  | _, .cons first rest => Option.merge min first.due? rest.due?
end

def Work.outcome? {α : Type} : Work α → Option (Except StorageError α)
  | .ended outcome => some outcome
  | _ => none

def Work.succeeded {α : Type} : Work α → Bool
  | .ended (.ok _) => true
  | _ => false

/-- The failure with which a sibling ends all of them. `clear` tells that all before it have succeeded. -/
def Work.halt? {α : Type} (patient clear : Bool) : Work α → Option StorageError
  | .ended (.error e) => if patient && !clear then none else some e
  | _ => none

def Siblings.results? : {α : Type} → Siblings α → Option (List α)
  | _, .nil => some []
  | _, .cons (.ended (.ok a)) rest => rest.results?.map (a :: ·)
  | _, _ => none

def Siblings.gather {α : Type} (patient : Bool) (siblings : Siblings α) : Work (List α) :=
  match siblings.results? with
  | some results => .ended (.ok results)
  | none => .all patient siblings

def under {α : Type} (i : Nat) (events : List (Position × α)) : List (Position × α) :=
  events.map fun (position, event) => (i :: position, event)

mutual
/-- A turn: what happens in it, and what is left to do. -/
def Work.poll (contents : Contents) (now : Nat) :
    {α : Type} → Delays → Work α → List (Position × Event) × Work α
  | _, _, .ended outcome => ([], .ended outcome)
  | _, _, .note notes => (notes.map fun note => ([], .noted note), .ended (.ok ()))
  | _, delays, .ask pointer key =>
    let due := now + delays [] pointer key
    if due ≤ now then
      ([([], .started pointer key), ([], .completed pointer key)], .ended (contents pointer key))
    else ([([], .started pointer key)], .waiting due pointer key)
  | _, _, .waiting due pointer key =>
    if due ≤ now then ([([], .completed pointer key)], .ended (contents pointer key))
    else ([], .waiting due pointer key)
  | _, delays, .andThen first next =>
    let (events, rest) := first.poll contents now delays
    match rest.outcome? with
    | some (.ok a) =>
      let (more, last) := (next a).poll contents now delays
      (events ++ more, last)
    | some (.error e) => (events, .ended (.error e))
    | none => (events, .andThen rest next)
  | _, delays, .all patient siblings =>
    let (events, rest) := siblings.poll contents now delays patient true 0
    match rest with
    | .error e => (events, .ended (.error e))
    | .ok rest => (events, rest.gather patient)
/-- A turn for each sibling from the place `i` on. After a failure that ends them, those behind it get
none. -/
def Siblings.poll (contents : Contents) (now : Nat) :
    {α : Type} → Delays → Bool → Bool → Nat → Siblings α →
      List (Position × Event) × Except StorageError (Siblings α)
  | _, _, _, _, _, .nil => ([], .ok .nil)
  | _, delays, patient, clear, i, .cons first rest =>
    let (events, first) := first.poll contents now (delays.below i)
    match first.halt? patient clear with
    | some e => (under i events, .error e)
    | none =>
      let (more, rest) := rest.poll contents now delays patient (clear && first.succeeded) (i + 1)
      (under i events ++ more, rest.map (Siblings.cons first))
end

section
variable {α : Type} {contents : Contents} {now : Nat}

theorem Work.outcome?_eq_some {work : Work α} {outcome : Except StorageError α} :
    work.outcome? = some outcome ↔ work = .ended outcome := by
  cases work <;> simp [outcome?]

theorem Work.outcome?_eq_none_of_due? {work : Work α} {due : Nat} (h : work.due? = some due) :
    work.outcome? = none := by
  cases work <;> simp_all [due?, outcome?]

theorem Work.halt?_eq_some {patient clear : Bool} {work : Work α} {e : StorageError}
    (h : work.halt? patient clear = some e) : work = .ended (.error e) := by
  unfold halt? at h
  split at h
  · split at h
    · contradiction
    · cases h
      rfl
  · contradiction

theorem Siblings.values_of_results? : {α : Type} → {siblings : Siblings α} → {results : List α} →
    siblings.results? = some results → siblings.values contents = .ok results
  | _, .nil, _, h => by simp_all [results?, values]
  | _, .cons (.ended (.ok a)) rest, results, h => by
    simp only [results?, Option.map_eq_some_iff] at h
    obtain ⟨more, hm, rfl⟩ := h
    simp [values, Work.value, values_of_results? hm, Except.map]
  | _, .cons (.ended (.error _)) _, _, h
  | _, .cons (.note _) _, _, h
  | _, .cons (.ask _ _) _, _, h
  | _, .cons (.waiting _ _ _) _, _, h
  | _, .cons (.andThen _ _) _, _, h
  | _, .cons (.all _ _) _, _, h => by simp [results?] at h

@[simp] theorem Siblings.value_gather (patient : Bool) (siblings : Siblings α) :
    (siblings.gather patient).value contents = siblings.values contents := by
  unfold gather
  split
  · rename_i results h
    simp [Work.value, values_of_results? h]
  · simp [Work.value]

theorem Siblings.weight_gather_le (patient : Bool) (siblings : Siblings α) :
    (siblings.gather patient).weight contents ≤ siblings.weight contents + 1 := by
  unfold gather
  split <;> simp [Work.weight]

theorem Siblings.poll_cons_ok {delays : Delays} {patient clear : Bool} {i : Nat} {first : Work α}
    {rest after : Siblings α}
    (h : ((Siblings.cons first rest).poll contents now delays patient clear i).2 = .ok after) :
    let first' := (first.poll contents now (delays.below i)).2
    ∃ rest', first'.halt? patient clear = none ∧
      (rest.poll contents now delays patient (clear && first'.succeeded) (i + 1)).2 = .ok rest' ∧
      after = .cons first' rest' := by
  simp only [poll] at h
  cases hh : (first.poll contents now (delays.below i)).2.halt? patient clear with
  | some e => simp [hh] at h
  | none =>
    simp only [hh] at h
    cases hr : (rest.poll contents now delays patient
        (clear && (first.poll contents now (delays.below i)).2.succeeded) (i + 1)).2 with
    | error e => simp [hr, Except.map] at h
    | ok rest' =>
      simp only [hr, Except.map, Except.ok.injEq] at h
      exact ⟨rest', hh, hr, h.symm⟩

end

mutual
/-- A turn does not change what the work comes to, but of several failures another may come first. -/
theorem Work.toOption_value_poll (contents : Contents) (now : Nat) (delays : Delays) :
    {α : Type} → (work : Work α) →
    ((work.poll contents now delays).2.value contents).toOption = (work.value contents).toOption
  | _, .ended _ => rfl
  | _, .note _ => rfl
  | _, .ask pointer key => by
    simp only [Work.poll]
    split <;> simp [Work.value]
  | _, .waiting due pointer key => by
    simp only [Work.poll]
    split <;> simp [Work.value]
  | _, .andThen first next => by
    have hf := Work.toOption_value_poll contents now delays first
    generalize h : first.poll contents now delays = turn at hf
    obtain ⟨events, rest⟩ := turn
    simp only [Work.poll, h, Work.value]
    cases ho : rest.outcome? with
    | none =>
      simp only [Work.value]
      cases hr : rest.value contents <;> cases hv : first.value contents <;>
        simp_all [Except.toOption]
    | some outcome =>
      obtain rfl := Work.outcome?_eq_some.1 ho
      cases outcome with
      | error e => cases hv : first.value contents <;> simp_all [Work.value, Except.toOption]
      | ok a =>
        have hn := Work.toOption_value_poll contents now delays (next a)
        cases hv : first.value contents <;> simp_all [Work.value, Except.toOption]
  | _, .all patient siblings => by
    have hs := Siblings.toOption_values_poll contents now delays patient true 0 siblings
    generalize h : siblings.poll contents now delays patient true 0 = turn at hs
    obtain ⟨events, rest⟩ := turn
    cases rest <;> simp_all [Work.poll, Work.value, Except.bind]
theorem Siblings.toOption_values_poll (contents : Contents) (now : Nat) (delays : Delays)
    (patient clear : Bool) (i : Nat) :
    {α : Type} → (siblings : Siblings α) →
    ((siblings.poll contents now delays patient clear i).2.bind (·.values contents)).toOption =
      (siblings.values contents).toOption
  | _, .nil => rfl
  | _, .cons first rest => by
    have hf := Work.toOption_value_poll contents now (delays.below i) first
    generalize h : first.poll contents now (delays.below i) = turn at hf
    obtain ⟨events, first'⟩ := turn
    simp only [Siblings.poll, h, Siblings.values]
    cases hh : first'.halt? patient clear with
    | some e =>
      obtain rfl := Work.halt?_eq_some hh
      cases hv : first.value contents <;> simp_all [Work.value, Except.toOption, Except.bind]
    | none =>
      have hr := Siblings.toOption_values_poll contents now delays patient
        (clear && first'.succeeded) (i + 1) rest
      generalize rest.poll contents now delays patient (clear && first'.succeeded) (i + 1) = turn at hr
      obtain ⟨more, rest'⟩ := turn
      cases rest' with
      | error e =>
        cases hv : first.value contents <;> cases hw : rest.values contents <;>
          simp_all [Except.toOption, Except.bind, Except.map]
      | ok rest' =>
        cases hv : first.value contents <;> cases hw : first'.value contents <;>
          cases hx : rest.values contents <;> cases hy : rest'.values contents <;>
          simp_all [Except.toOption, Except.bind, Except.map, Siblings.values]
end

mutual
theorem Work.weight_poll_le (contents : Contents) (now : Nat) (delays : Delays) :
    {α : Type} → (work : Work α) →
    (work.poll contents now delays).2.weight contents ≤ work.weight contents
  | _, .ended _ => Nat.le_refl _
  | _, .note _ => by simp [Work.poll, Work.weight]
  | _, .ask pointer key => by
    simp only [Work.poll]
    split <;> simp [Work.weight]
  | _, .waiting due pointer key => by
    simp only [Work.poll]
    split <;> simp [Work.weight]
  | _, .andThen first next => by
    have hf := Work.weight_poll_le contents now delays first
    have hv := Work.toOption_value_poll contents now delays first
    generalize h : first.poll contents now delays = turn at hf hv
    obtain ⟨events, rest⟩ := turn
    simp only [Work.poll, h, Work.weight]
    cases ho : rest.outcome? with
    | none =>
      simp only [Work.weight]
      cases hr : rest.value contents <;> cases hw : first.value contents <;>
        simp_all [Except.toOption]
    | some outcome =>
      obtain rfl := Work.outcome?_eq_some.1 ho
      cases outcome with
      | error e => simp [Work.weight]
      | ok a =>
        have hn := Work.weight_poll_le contents now delays (next a)
        cases hw : first.value contents <;> simp_all [Work.value, Except.toOption]
        omega
  | _, .all patient siblings => by
    have hs := Siblings.weight_poll_le contents now delays patient true 0 siblings
    generalize h : siblings.poll contents now delays patient true 0 = turn at hs
    obtain ⟨events, rest⟩ := turn
    cases rest with
    | error e => simp [Work.poll, h, Work.weight]
    | ok rest =>
      simp only [Work.poll, h, Work.weight]
      exact Nat.le_trans (rest.weight_gather_le patient) (Nat.add_le_add_right (hs rest rfl) 1)
theorem Siblings.weight_poll_le (contents : Contents) (now : Nat) (delays : Delays)
    (patient clear : Bool) (i : Nat) :
    {α : Type} → (siblings : Siblings α) → (after : Siblings α) →
    (siblings.poll contents now delays patient clear i).2 = .ok after →
      after.weight contents ≤ siblings.weight contents
  | _, .nil, after, h => by
    cases h
    exact Nat.le_refl _
  | _, .cons first rest, after, h => by
    obtain ⟨rest', -, hr, rfl⟩ := Siblings.poll_cons_ok h
    have hf := Work.weight_poll_le contents now (delays.below i) first
    have hle := Siblings.weight_poll_le contents now _ _ _ _ rest _ hr
    simp only [Siblings.weight]
    omega
end

theorem Siblings.due?_cons_le {α : Type} {now : Nat} {first : Work α} {rest : Siblings α} {due : Nat}
    (h : (Siblings.cons first rest).due? = some due) (hle : due ≤ now) :
    (∃ d, first.due? = some d ∧ d ≤ now) ∨ (∃ d, rest.due? = some d ∧ d ≤ now) := by
  cases hf : first.due? with
  | none =>
    refine .inr ⟨due, ?_, hle⟩
    simpa [due?, hf] using h
  | some d =>
    cases hr : rest.due? with
    | none =>
      simp only [due?, hf, hr, Option.merge, Option.some.injEq] at h
      exact .inl ⟨d, rfl, by omega⟩
    | some d' =>
      simp only [due?, hf, hr, Option.merge, Option.some.injEq] at h
      rcases Nat.le_total d d' with hd | hd
      · exact .inl ⟨d, rfl, by omega⟩
      · exact .inr ⟨d', rfl, by omega⟩

mutual
theorem Work.weight_poll_lt (contents : Contents) (now : Nat) (delays : Delays) :
    {α : Type} → (work : Work α) →
    work.outcome? = none → (∀ due, work.due? = some due → due ≤ now) →
    (work.poll contents now delays).2.weight contents < work.weight contents
  | _, .ended _, h, _ => by simp [Work.outcome?] at h
  | _, .note _, _, _ => by simp [Work.poll, Work.weight]
  | _, .ask pointer key, _, _ => by
    simp only [Work.poll]
    split <;> simp [Work.weight]
  | _, .waiting due pointer key, _, hd => by simp [Work.poll, hd due rfl, Work.weight]
  | _, .andThen first next, _, hd => by
    have hv := Work.toOption_value_poll contents now delays first
    have hle := Work.weight_poll_le contents now delays first
    cases hfo : first.outcome? with
    | some outcome =>
      -- the first part had ended before, so that the turn goes to what follows it
      obtain rfl := Work.outcome?_eq_some.1 hfo
      cases outcome with
      | error e => simp [Work.poll, Work.outcome?, Work.weight, Work.value]
      | ok a =>
        have hn := Work.weight_poll_le contents now delays (next a)
        simp only [Work.poll, Work.outcome?, Work.weight, Work.value]
        omega
    | none =>
      have hlt := Work.weight_poll_lt contents now delays first hfo hd
      generalize h : first.poll contents now delays = turn at hlt hv hle
      obtain ⟨events, rest⟩ := turn
      simp only [Work.poll, h, Work.weight]
      cases ho : rest.outcome? with
      | none =>
        simp only [Work.weight]
        cases hr : rest.value contents <;> cases hw : first.value contents <;>
          simp_all [Except.toOption]
      | some outcome =>
        obtain rfl := Work.outcome?_eq_some.1 ho
        cases outcome with
        | error e =>
          simp only [Work.weight]
          omega
        | ok a =>
          have hn := Work.weight_poll_le contents now delays (next a)
          cases hw : first.value contents <;> simp_all [Work.value, Except.toOption]
          omega
  | _, .all patient siblings, _, hd => by
    generalize h : siblings.poll contents now delays patient true 0 = turn
    obtain ⟨events, rest⟩ := turn
    cases rest with
    | error e => simp [Work.poll, h, Work.weight]
    | ok rest =>
      simp only [Work.poll, h, Work.weight, Siblings.gather]
      cases hr : rest.results? with
      | some results => simp [Work.weight]
      | none =>
        have hsome : (∃ due, siblings.due? = some due ∧ due ≤ now) ∨
            true = true ∧ siblings.due? = none ∧ rest.results? = none := by
          cases hdue : siblings.due? with
          | none => exact .inr ⟨rfl, rfl, hr⟩
          | some due => exact .inl ⟨due, rfl, hd due hdue⟩
        have hlt := Siblings.weight_poll_lt contents now delays patient true 0 siblings rest (by rw [h])
          hsome
        simpa [Work.weight] using hlt
theorem Siblings.weight_poll_lt (contents : Contents) (now : Nat) (delays : Delays)
    (patient clear : Bool) (i : Nat) :
    {α : Type} → (siblings : Siblings α) → (after : Siblings α) →
    (siblings.poll contents now delays patient clear i).2 = .ok after →
    (∃ due, siblings.due? = some due ∧ due ≤ now) ∨
      clear = true ∧ siblings.due? = none ∧ after.results? = none →
    after.weight contents < siblings.weight contents
  | _, .nil, after, hp, h => by
    cases hp
    simp [Siblings.due?, Siblings.results?] at h
  | _, .cons first rest, after, hp, h => by
    obtain ⟨rest', hh, hr, rfl⟩ := Siblings.poll_cons_ok hp
    have hfle := Work.weight_poll_le contents now (delays.below i) first
    have hrle := Siblings.weight_poll_le contents now _ _ _ _ rest _ hr
    simp only [Siblings.weight]
    rcases h with ⟨due, hd, hle⟩ | ⟨rfl, hnone, hn⟩
    · rcases Siblings.due?_cons_le hd hle with ⟨d, hfd, hdle⟩ | hrd
      · have hlt := Work.weight_poll_lt contents now (delays.below i) first
          (Work.outcome?_eq_none_of_due? hfd) fun due hdue => by simp_all
        omega
      · have hlt := Siblings.weight_poll_lt contents now _ _ _ _ rest _ hr (.inl hrd)
        omega
    · -- nothing is waiting, so the first sibling that has not ended can go on
      simp only [Siblings.due?, Option.merge_eq_none_iff] at hnone
      cases hfo : first.outcome? with
      | none =>
        have hlt := Work.weight_poll_lt contents now (delays.below i) first hfo (by simp [hnone.1])
        omega
      | some outcome =>
        obtain rfl := Work.outcome?_eq_some.1 hfo
        cases outcome with
        | error e => simp [Work.poll, Work.halt?] at hh
        | ok a =>
          simp only [Siblings.results?, Work.poll, Option.map_eq_none_iff] at hn
          have hlt := Siblings.weight_poll_lt contents now _ _ _ _ rest _ hr
            (.inr ⟨rfl, hnone.2, hn⟩)
          omega
end

def Work.instant {α : Type} (now : Nat) (work : Work α) : Nat := max now (work.due?.getD now)

theorem Work.weight_turn_lt {α : Type} (contents : Contents) (delays : Delays) (now : Nat)
    {work : Work α} (h : work.outcome? = none) :
    (work.poll contents (work.instant now) delays).2.weight contents < work.weight contents := by
  refine Work.weight_poll_lt contents _ delays work h fun due hdue => ?_
  rw [instant, hdue]
  exact Nat.le_max_right ..

/-- Turns from an instant on until the work has ended. -/
def Work.run {α : Type} (contents : Contents) (delays : Delays) (now : Nat) (work : Work α) :
    Timeline (Position × Event) α :=
  match _h : work.outcome? with
  | some outcome => .atOnce now [] outcome
  | none =>
    let instant := work.instant now
    let turn := work.poll contents instant delays
    (turn.2.run contents delays instant).after instant turn.1
termination_by work.weight contents
decreasing_by exact Work.weight_turn_lt contents delays now (by assumption)

theorem Work.run_of_outcome {α : Type} (contents : Contents) (delays : Delays) (now : Nat)
    {work : Work α} {outcome : Except StorageError α} (h : work.outcome? = some outcome) :
    work.run contents delays now = .atOnce now [] outcome := by
  rw [run]
  split <;> simp_all

theorem Work.run_of_pending {α : Type} (contents : Contents) (delays : Delays) (now : Nat)
    {work : Work α} (h : work.outcome? = none) :
    work.run contents delays now =
      ((work.poll contents (work.instant now) delays).2.run contents delays (work.instant now)).after
        (work.instant now) (work.poll contents (work.instant now) delays).1 := by
  rw [run]
  split <;> simp_all

end StorageQuery
