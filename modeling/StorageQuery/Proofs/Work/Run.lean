import StorageQuery.Proofs.Work.Course
/-!
A run against the course of its work. A turn does just what the course has up to its instant and leaves
a work with the rest of the course (`Work.turn_poll`). So a run that is not held up by patient siblings
goes through the course in the order of time until the first failure (`Work.run_course`).
-/

set_option autoImplicit false

namespace StorageQuery

mutual
/-- No siblings wait for those before a failure. -/
def Work.Eager : {α : Type} → Work α → Prop
  | _, .andThen first next => first.Eager ∧ ∀ a, (next a).Eager
  | _, .all patient siblings => patient = false ∧ siblings.Eager
  | _, .ended _ | _, .note _ | _, .ask _ _ | _, .waiting _ _ _ => True
def Siblings.Eager : {α : Type} → Siblings α → Prop
  | _, .nil => True
  | _, .cons first rest => first.Eager ∧ rest.Eager
end

mutual
/-- Nothing can be done before some look-up is over, and none is over yet. -/
def Work.Blocked (now : Nat) : {α : Type} → Work α → Prop
  | _, .waiting due _ _ => now < due
  | _, .andThen first _ => first.Blocked now
  | _, .all _ siblings => siblings.Calm now ∧ siblings.results? = none
  | _, .ended _ | _, .note _ | _, .ask _ _ => False
def Siblings.Calm (now : Nat) : {α : Type} → Siblings α → Prop
  | _, .nil => True
  | _, .cons first rest => ((∃ a, first = .ended (.ok a)) ∨ first.Blocked now) ∧ rest.Calm now
end

section
variable {α : Type} (contents : Contents) (delays : Delays) (now : Nat)

structure Work.Leaves (work rest : Work α) : Prop where
  course : rest.course contents delays now = (work.course contents delays now).beyond now
  value : rest.value contents = work.value contents
  finish : rest.finish contents delays now = work.finish contents delays now
  eager : work.Eager → rest.Eager
  settled : (∃ a, rest = .ended (.ok a)) ∨ rest.Blocked now

/-- A turn that does what the course has up to an instant. -/
inductive Work.Turn (work : Work α) (turn : List (Position × Event) × Work α) : Prop where
  | fails (f : Nat × Position × StorageError)
    (events : turn.1 = ((work.course contents delays now).upTo now).events.map Prod.snd)
    (fault : ((work.course contents delays now).upTo now).fault? = some f)
    (rest : turn.2 = .ended (.error f.2.2))
  | goesOn (events : turn.1 = ((work.course contents delays now).upTo now).events.map Prod.snd)
    (faultless : ((work.course contents delays now).upTo now).fault? = none)
    (leaves : work.Leaves contents delays now turn.2)

structure Siblings.Leaves (i : Nat) (siblings rest : Siblings α) : Prop where
  course : rest.course contents delays now i = (siblings.course contents delays now i).beyond now
  values : rest.values contents = siblings.values contents
  finish : rest.finish contents delays now i = siblings.finish contents delays now i
  eager : siblings.Eager → rest.Eager
  calm : rest.Calm now

inductive Siblings.Turn (i : Nat) (siblings : Siblings α)
    (turn : List (Position × Event) × Except StorageError (Siblings α)) : Prop where
  | fails (f : Nat × Position × StorageError)
    (events : turn.1 = ((siblings.course contents delays now i).upTo now).events.map Prod.snd)
    (fault : ((siblings.course contents delays now i).upTo now).fault? = some f)
    (rest : turn.2 = .error f.2.2)
  | goesOn {rest : Siblings α}
    (events : turn.1 = ((siblings.course contents delays now i).upTo now).events.map Prod.snd)
    (faultless : ((siblings.course contents delays now i).upTo now).fault? = none)
    (rest_eq : turn.2 = .ok rest) (leaves : siblings.Leaves contents delays now i rest)

end

section
variable (contents : Contents)

theorem Siblings.course_of_results? (delays : Delays) (now : Nat) : {α : Type} → (i : Nat) →
    {siblings : Siblings α} → {results : List α} → siblings.results? = some results →
    siblings.course contents delays now i = [] ∧ siblings.finish contents delays now i = now
  | _, _, .nil, _, _ => ⟨rfl, rfl⟩
  | _, i, .cons (.ended (.ok a)) rest, results, h => by
    simp only [results?, Option.map_eq_some_iff] at h
    obtain ⟨more, hm, -⟩ := h
    obtain ⟨hc, hf⟩ := course_of_results? delays now (i + 1) hm
    simp [course, finish, Work.course, Work.finish, Course.ending, Course.under, hc, hf]
  | _, _, .cons (.ended (.error _)) _, _, h
  | _, _, .cons (.note _) _, _, h
  | _, _, .cons (.ask _ _) _, _, h
  | _, _, .cons (.waiting _ _ _) _, _, h
  | _, _, .cons (.andThen _ _) _, _, h
  | _, _, .cons (.all _ _) _, _, h => by simp [results?] at h

theorem Siblings.results?_cons_ended {α : Type} (a : α) (rest : Siblings α) :
    (Siblings.cons (.ended (.ok a)) rest).results? = rest.results?.map (a :: ·) := rfl

mutual
theorem Work.lt_finish (delays : Delays) (now : Nat) : {α : Type} → (work : Work α) →
    work.Blocked now → (∃ a, work.value contents = .ok a) → now < work.finish contents delays now
  | _, .waiting _ _ _, h, _ => Nat.lt_of_lt_of_le h (Nat.le_max_right ..)
  | _, .andThen first next, h, ⟨b, hb⟩ => by
    cases hv : first.value contents with
    | error e => simp [Work.value, hv] at hb
    | ok a =>
      have hf := Work.lt_finish delays now first h ⟨a, hv⟩
      simp only [Work.finish, hv]
      exact Nat.lt_of_lt_of_le hf (Work.le_finish contents delays _ (next a))
  | _, .all _ siblings, h, hv => Siblings.lt_finish delays now 0 siblings h.1 h.2 hv
theorem Siblings.lt_finish (delays : Delays) (now i : Nat) : {α : Type} → (siblings : Siblings α) →
    siblings.Calm now → siblings.results? = none → (∃ as, siblings.values contents = .ok as) →
    now < siblings.finish contents delays now i
  | _, .nil, _, h, _ => by simp [Siblings.results?] at h
  | _, .cons first rest, hcalm, hn, ⟨as, has⟩ => by
    obtain ⟨hc, hr⟩ := hcalm
    have hv : ∃ a, first.value contents = .ok a := by
      cases h : first.value contents <;> simp_all [Siblings.values]
    have hvs : ∃ as, rest.values contents = .ok as := by
      cases h : rest.values contents <;> cases h' : first.value contents <;>
        simp_all [Siblings.values, Except.map]
    rcases hc with ⟨a, rfl⟩ | hb
    · simp only [Siblings.results?_cons_ended, Option.map_eq_none_iff] at hn
      exact Nat.lt_of_lt_of_le (Siblings.lt_finish delays now (i + 1) rest hr hn hvs)
        (Nat.le_max_right ..)
    · exact Nat.lt_of_lt_of_le (Work.lt_finish (delays.below i) now first hb hv)
        (Nat.le_max_left ..)
end

theorem Work.Leaves.late {α : Type} {delays : Delays} {now : Nat} {work rest : Work α}
    (h : work.Leaves contents delays now rest) (hb : rest.Blocked now) {a : α}
    (hv : work.value contents = .ok a) : now < work.finish contents delays now := by
  rw [← h.finish]
  exact rest.lt_finish contents delays now hb ⟨a, h.value.trans hv⟩

theorem Work.turn_ended {α : Type} (delays : Delays) (now : Nat) (outcome : Except StorageError α) :
    (Work.ended outcome).Turn contents delays now ((Work.ended outcome).poll contents now delays) := by
  cases outcome with
  | ok a => exact .goesOn rfl rfl ⟨rfl, rfl, rfl, id, .inl ⟨a, rfl⟩⟩
  | error e =>
    have hc : ((Work.ended (.error e) : Work α).course contents delays now).upTo now =
        [⟨now, [], .fault e⟩] := by
      simp [Work.course, Course.ending, Course.upTo]
    exact .fails (now, [], e) (by simp [hc, Work.poll, Course.events]) (by rw [hc]; rfl) rfl

theorem Course.events_notes (now : Nat) (notes : List Note) :
    (Course.events (notes.map fun note => ⟨now, [], .event (.noted note)⟩)).map Prod.snd =
      notes.map fun note => ([], .noted note) := by
  induction notes with
  | nil => rfl
  | cons note notes ih => exact congrArg _ ih

theorem Work.turn_note (delays : Delays) (now : Nat) (notes : List Note) :
    (Work.note notes).Turn contents delays now ((Work.note notes).poll contents now delays) := by
  have hc : ((Work.note notes).course contents delays now).upTo now =
      (Work.note notes).course contents delays now := by
    simp [Work.course, Course.upTo]
  have hb : ((Work.note notes).course contents delays now).beyond now = [] := by
    simp [Work.course, Course.beyond]
  have hf : ((Work.note notes).course contents delays now).fault? = none :=
    Course.fault?_eq_none_iff.2 ((Work.faultless_course_iff ..).2 ⟨(), rfl⟩)
  refine .goesOn ?_ (by rw [hc, hf]) ⟨hb.symm, rfl, rfl, fun _ => trivial, .inl ⟨(), rfl⟩⟩
  rw [hc]
  exact (Course.events_notes now notes).symm

theorem Work.turn_waiting (delays : Delays) (now due : Nat) (pointer : String) (key : Key) :
    (Work.waiting due pointer key).Turn contents delays now
      ((Work.waiting due pointer key).poll contents now delays) := by
  by_cases h : due ≤ now
  · cases hv : contents pointer key with
    | ok found =>
      refine .goesOn ?_ ?_ ⟨?_, ?_, ?_, ?_, .inl ⟨found, ?_⟩⟩ <;>
        simp [Work.course, Work.poll, Work.value, Work.finish, Work.Eager, Course.ending, Course.upTo,
          Course.beyond, Course.events, Course.fault?, h, hv]
    | error e =>
      refine .fails (now, [], e) ?_ ?_ ?_ <;>
        simp [Work.course, Work.poll, Course.ending, Course.upTo, Course.events, Course.fault?, h, hv]
  · have hlate : ∀ o ∈ (Work.waiting due pointer key).course contents delays now, now < o.time := by
      intro o ho
      rcases List.mem_cons.1 ho with rfl | ho
      · exact Nat.lt_of_lt_of_le (Nat.not_le.1 h) (Nat.le_max_right ..)
      · rw [Course.time_ending ho]
        exact Nat.lt_of_lt_of_le (Nat.not_le.1 h) (Nat.le_max_right ..)
    have hp : (Work.waiting due pointer key).poll contents now delays =
        ([], .waiting due pointer key) := by
      simp [Work.poll, h]
    rw [hp]
    refine .goesOn ?_ ?_ ⟨(Course.beyond_eq_self hlate).symm, rfl, rfl, id, .inr (Nat.not_le.1 h)⟩
    · simp [Course.upTo_eq_nil hlate, Course.events]
    · rw [Course.upTo_eq_nil hlate]
      rfl

theorem Work.turn_ask (delays : Delays) (now : Nat) (pointer : String) (key : Key) :
    (Work.ask pointer key).Turn contents delays now
      ((Work.ask pointer key).poll contents now delays) := by
  have hc : (Work.ask pointer key).course contents delays now =
      ⟨now, [], .event (.started pointer key)⟩ ::
        (Work.waiting (now + delays [] pointer key) pointer key).course contents delays now := by
    simp [Work.course]
  have hp : (Work.ask pointer key).poll contents now delays =
      (([], .started pointer key) ::
        ((Work.waiting (now + delays [] pointer key) pointer key).poll contents now delays).1,
        ((Work.waiting (now + delays [] pointer key) pointer key).poll contents now delays).2) := by
    simp only [Work.poll]
    split <;> rfl
  have hu (course : Course) : Course.upTo now (⟨now, [], .event (.started pointer key)⟩ :: course) =
      ⟨now, [], .event (.started pointer key)⟩ :: course.upTo now := by
    simp [Course.upTo]
  have hb (course : Course) : Course.beyond now (⟨now, [], .event (.started pointer key)⟩ :: course) =
      course.beyond now := by
    simp [Course.beyond]
  rw [hp]
  cases Work.turn_waiting contents delays now (now + delays [] pointer key) pointer key with
  | fails f events fault rest =>
    refine .fails f ?_ (by rw [hc, hu]; exact fault) rest
    simp [hc, hu, Course.events, events]
  | goesOn events faultless leaves =>
    refine .goesOn ?_ (by rw [hc, hu]; exact faultless)
      ⟨?_, leaves.value, ?_, fun _ => leaves.eager trivial, leaves.settled⟩
    · simp [hc, hu, Course.events, events]
    · rw [leaves.course, hc, hb]
    · rw [leaves.finish]
      simp [Work.finish]

theorem Work.outcome?_of_blocked {α : Type} {now : Nat} {work : Work α} (h : work.Blocked now) :
    work.outcome? = none := by
  cases work <;> simp_all [Work.Blocked, Work.outcome?]

theorem Work.turn_andThen {α β : Type} {delays : Delays} {now : Nat} {first : Work α}
    {next : α → Work β} (hf : first.Turn contents delays now (first.poll contents now delays))
    (hn : ∀ a, first.value contents = .ok a → first.finish contents delays now = now →
      (next a).Turn contents delays now ((next a).poll contents now delays)) :
    (first.andThen next).Turn contents delays now ((first.andThen next).poll contents now delays) := by
  generalize hp : first.poll contents now delays = turn at hf
  obtain ⟨events, rest⟩ := turn
  cases hf with
  | fails f hev hfault hrest =>
    obtain rfl := hrest
    refine .fails f ?_ ?_ (by simp [Work.poll, hp, Work.outcome?])
    · simp only [Work.poll, hp, Work.outcome?, Work.course, Course.upTo_append,
        Course.events_append_of_fault hfault]
      exact hev
    · rw [Work.course, Course.upTo_append, Course.fault?_append, hfault]
      rfl
  | goesOn hev hfaultless leaves =>
    rcases leaves.settled with ⟨a, ha⟩ | hb
    · obtain rfl : rest = _ := ha
      have hv : first.value contents = .ok a := leaves.value.symm
      have hfin : first.finish contents delays now = now := leaves.finish.symm
      have hbey : (first.course contents delays now).beyond now = [] := leaves.course.symm
      have hc : (first.andThen next).course contents delays now =
          first.course contents delays now ++ (next a).course contents delays now := by
        simp [Work.course, Course.onSuccess, hv, hfin]
      have hpoll : (first.andThen next).poll contents now delays =
          (events ++ ((next a).poll contents now delays).1, ((next a).poll contents now delays).2) := by
        simp [Work.poll, hp, Work.outcome?]
      rw [hpoll]
      cases hn a hv hfin with
      | fails f hev' hfault hrest =>
        refine .fails f ?_ ?_ hrest
        · rw [hc, Course.upTo_append, Course.events_append hfaultless, List.map_append]
          exact congrArg₂ _ hev hev'
        · rw [hc, Course.upTo_append, Course.fault?_append, hfaultless, hfault]
          rfl
      | goesOn hev' hfaultless' leaves' =>
        refine .goesOn ?_ ?_ ⟨?_, ?_, ?_, fun h => leaves'.eager (h.2 a), leaves'.settled⟩
        · rw [hc, Course.upTo_append, Course.events_append hfaultless, List.map_append]
          exact congrArg₂ _ hev hev'
        · rw [hc, Course.upTo_append, Course.fault?_append, hfaultless, hfaultless']
          rfl
        · rw [leaves'.course, hc, Course.beyond_append, hbey, List.nil_append]
        · simp [leaves'.value, Work.value, hv]
        · simp [leaves'.finish, Work.finish, hv, hfin]
    · -- what follows begins when the look-ups are over
      have hlate : ∀ o ∈ Course.onSuccess (first.value contents) fun a =>
          (next a).course contents delays (first.finish contents delays now), now < o.time := by
        intro o ho
        obtain ⟨a, hv, ho⟩ := Course.mem_onSuccess.1 ho
        exact Nat.lt_of_lt_of_le (leaves.late contents hb hv) (Work.le_time_course _ _ _ _ o ho)
      have hpoll : (first.andThen next).poll contents now delays = (events, rest.andThen next) := by
        simp [Work.poll, hp, Work.outcome?_of_blocked hb]
      rw [hpoll]
      refine .goesOn ?_ ?_ ⟨?_, ?_, ?_, fun h => ⟨leaves.eager h.1, h.2⟩, .inr hb⟩
      · rw [Work.course, Course.upTo_append, Course.upTo_eq_nil hlate, List.append_nil]
        exact hev
      · rw [Work.course, Course.upTo_append, Course.upTo_eq_nil hlate, List.append_nil]
        exact hfaultless
      · rw [Work.course, Work.course, Course.beyond_append, Course.beyond_eq_self hlate, leaves.course,
          leaves.value, leaves.finish]
      · simp [Work.value, leaves.value]
      · simp [Work.finish, leaves.value, leaves.finish]

theorem Course.map_snd_events_under (i : Nat) (course : Course) :
    (course.under i).events.map Prod.snd = StorageQuery.under i (course.events.map Prod.snd) := by
  simp [Course.events_under, StorageQuery.under, List.map_map, Function.comp_def]

theorem Siblings.turn_cons {α : Type} {delays : Delays} {now i : Nat} {patient clear : Bool}
    {first : Work α} {rest : Siblings α}
    (hf : first.Turn contents (delays.below i) now (first.poll contents now (delays.below i)))
    (hh : patient = false ∨ (first.course contents (delays.below i) now).Faultless)
    (hr : ∀ clear, rest.Turn contents delays now (i + 1)
      (rest.poll contents now delays patient clear (i + 1))) :
    (Siblings.cons first rest).Turn contents delays now i
      ((Siblings.cons first rest).poll contents now delays patient clear i) := by
  generalize hp : first.poll contents now (delays.below i) = turn at hf
  obtain ⟨events, first'⟩ := turn
  cases hf with
  | fails f hev hfault hrest =>
    obtain rfl := hrest
    -- patient siblings come here only without a failure
    have hpatient : patient = false := by
      rcases hh with hp | hfaultless
      · exact hp
      · rw [Course.fault?_eq_none_iff.2 (hfaultless.upTo now)] at hfault
        contradiction
    have hu : ((first.course contents (delays.below i) now).under i |>.upTo now).fault? =
        some (f.1, i :: f.2.1, f.2.2) := by
      rw [Course.upTo_under, Course.fault?_under, hfault]
      rfl
    refine .fails (f.1, i :: f.2.1, f.2.2) ?_ ?_ (by simp [poll, hp, Work.halt?, hpatient])
    · rw [course, Course.upTo_append, Course.events_append_of_fault hu, Course.upTo_under,
        Course.map_snd_events_under]
      simpa [poll, hp, Work.halt?, hpatient] using congrArg (under i) hev
    · rw [course, Course.upTo_append, Course.fault?_append, hu]
      rfl
  | goesOn hev hfaultless leaves =>
    have hu : ((first.course contents (delays.below i) now).under i |>.upTo now).fault? = none := by
      rw [Course.upTo_under, Course.fault?_under, hfaultless]
      rfl
    have hhalt : first'.halt? patient clear = none := by
      rcases leaves.settled with ⟨a, ha⟩ | hb
      · obtain rfl := ha
        rfl
      · cases first' <;> simp_all [Work.Blocked, Work.halt?]
    have hpoll : (Siblings.cons first rest).poll contents now delays patient clear i =
        (under i events ++
          (rest.poll contents now delays patient (clear && first'.succeeded) (i + 1)).1,
          (rest.poll contents now delays patient (clear && first'.succeeded) (i + 1)).2.map
            (Siblings.cons first')) := by
      simp [poll, hp, hhalt]
    have hevents : under i events =
        ((first.course contents (delays.below i) now).under i |>.upTo now).events.map Prod.snd := by
      rw [Course.upTo_under, Course.map_snd_events_under]
      exact congrArg (under i) hev
    rw [hpoll]
    cases hr (clear && first'.succeeded) with
    | fails f hev' hfault hrest =>
      refine .fails f ?_ ?_ (by rw [hrest]; rfl)
      · rw [course, Course.upTo_append, Course.events_append hu, List.map_append, hevents, hev']
      · rw [course, Course.upTo_append, Course.fault?_append, hu, hfault]
        rfl
    | @goesOn rest' hev' hfaultless' hrest leaves' =>
      have hafter : (rest.poll contents now delays patient (clear && first'.succeeded) (i + 1)).2.map
          (Siblings.cons first') = .ok (.cons first' rest') := by
        rw [hrest]
        rfl
      refine .goesOn ?_ ?_ hafter ⟨?_, ?_, ?_,
        fun h => ⟨leaves.eager h.1, leaves'.eager h.2⟩, leaves.settled, leaves'.calm⟩
      · rw [course, Course.upTo_append, Course.events_append hu, List.map_append, hevents, hev']
      · rw [course, Course.upTo_append, Course.fault?_append, hu, hfaultless']
        rfl
      · rw [course, course, leaves.course, leaves'.course, Course.beyond_append, Course.beyond_under]
      · simp only [values, leaves.value, leaves'.values]
      · simp only [finish, leaves.finish, leaves'.finish]

theorem Work.turn_all {α : Type} {delays : Delays} {now : Nat} {patient : Bool}
    {siblings : Siblings α} (hs : siblings.Turn contents delays now 0
      (siblings.poll contents now delays patient true 0)) :
    (Work.all patient siblings).Turn contents delays now
      ((Work.all patient siblings).poll contents now delays) := by
  generalize hp : siblings.poll contents now delays patient true 0 = turn at hs
  obtain ⟨events, after⟩ := turn
  cases hs with
  | fails f hev hfault hrest =>
    obtain rfl := hrest
    exact .fails f (by simp only [poll, hp]; exact hev) hfault (by simp [poll, hp])
  | @goesOn rest hev hfaultless hrest leaves =>
    obtain rfl := hrest
    have hpoll : (Work.all patient siblings).poll contents now delays =
        (events, rest.gather patient) := by
      simp [poll, hp]
    rw [hpoll]
    cases hres : rest.results? with
    | some results =>
      obtain ⟨hc, hfin⟩ := Siblings.course_of_results? contents delays now 0 hres
      have hg : rest.gather patient = .ended (.ok results) := by simp [Siblings.gather, hres]
      rw [hg]
      refine .goesOn hev hfaultless ⟨?_, ?_, ?_, fun _ => trivial, .inl ⟨results, rfl⟩⟩
      · exact hc.symm.trans leaves.course
      · exact (Siblings.values_of_results? hres).symm.trans leaves.values
      · exact hfin.symm.trans leaves.finish
    | none =>
      have hg : rest.gather patient = .all patient rest := by simp [Siblings.gather, hres]
      rw [hg]
      exact .goesOn hev hfaultless ⟨leaves.course, leaves.values, leaves.finish,
        fun h => ⟨h.1, leaves.eager h.2⟩, .inr ⟨leaves.calm, hres⟩⟩

mutual
/-- A turn does what the course has up to its instant, if no failure is held back. -/
theorem Work.turn_poll (now : Nat) (delays : Delays) : {α : Type} → (work : Work α) →
    work.Eager ∨ (work.course contents delays now).Faultless →
    work.Turn contents delays now (work.poll contents now delays)
  | _, .ended outcome, _ => Work.turn_ended contents delays now outcome
  | _, .note notes, _ => Work.turn_note contents delays now notes
  | _, .ask pointer key, _ => Work.turn_ask contents delays now pointer key
  | _, .waiting due pointer key, _ => Work.turn_waiting contents delays now due pointer key
  | _, .andThen first next, h => by
    refine Work.turn_andThen contents (Work.turn_poll now delays first ?_) fun a hv hfin => ?_
    · exact h.imp (fun h => h.1) fun h => (Course.faultless_append.1 h).1
    · refine Work.turn_poll now delays (next a) (h.imp (fun h => h.2 a) fun h => ?_)
      simpa [hv, hfin, Course.onSuccess] using (Course.faultless_append.1 h).2
  | _, .all patient siblings, h =>
    Work.turn_all contents (Siblings.turn_poll now delays patient true 0 siblings h)
theorem Siblings.turn_poll (now : Nat) (delays : Delays) (patient clear : Bool) (i : Nat) :
    {α : Type} → (siblings : Siblings α) →
    (patient = false ∧ siblings.Eager) ∨ (siblings.course contents delays now i).Faultless →
    siblings.Turn contents delays now i (siblings.poll contents now delays patient clear i)
  | _, .nil, _ => .goesOn rfl rfl rfl ⟨rfl, rfl, rfl, id, trivial⟩
  | _, .cons first rest, h => by
    have hsplit := h.imp_right Course.faultless_append.1
    refine Siblings.turn_cons contents (Work.turn_poll now (delays.below i) first ?_) ?_ fun clear => ?_
    · exact hsplit.imp (fun h => h.2.1) fun h => Course.faultless_under.1 h.1
    · exact hsplit.imp (fun h => h.1) fun h => Course.faultless_under.1 h.1
    · exact Siblings.turn_poll now delays patient clear (i + 1) rest
        (hsplit.imp (fun h => ⟨h.1, h.2.2⟩) fun h => h.2)
end

theorem Siblings.le_due?_cons {α : Type} {later : Nat} {first : Work α} {rest : Siblings α}
    (h : ∀ due, (Siblings.cons first rest).due? = some due → later ≤ due) :
    (∀ due, first.due? = some due → later ≤ due) ∧ ∀ due, rest.due? = some due → later ≤ due := by
  cases hf : first.due? <;> cases hr : rest.due? <;>
    simp_all [due?, Option.merge]

mutual
/-- A blocked work is the same at every instant before its first look-up is over. -/
theorem Work.course_of_blocked (delays : Delays) {now later : Nat} (hle : now ≤ later) :
    {α : Type} → (work : Work α) → work.Blocked now → (∀ due, work.due? = some due → later ≤ due) →
    work.course contents delays later = work.course contents delays now ∧
      work.finish contents delays later = work.finish contents delays now
  | _, .waiting due _ _, _, hd => by
    have hdue := hd due rfl
    have h : max later due = max now due := by omega
    simp [Work.course, Work.finish, h]
  | _, .andThen first next, hb, hd => by
    obtain ⟨hc, hf⟩ := Work.course_of_blocked delays hle first hb hd
    simp [Work.course, Work.finish, hc, hf]
  | _, .all _ siblings, hb, hd => by
    obtain ⟨hc, hf⟩ := Siblings.course_of_calm delays hle 0 siblings hb.1 hd
    exact ⟨hc, hf hb.2⟩
theorem Siblings.course_of_calm (delays : Delays) {now later : Nat} (hle : now ≤ later) (i : Nat) :
    {α : Type} → (siblings : Siblings α) → siblings.Calm now →
    (∀ due, siblings.due? = some due → later ≤ due) →
    siblings.course contents delays later i = siblings.course contents delays now i ∧
      (siblings.results? = none →
        siblings.finish contents delays later i = siblings.finish contents delays now i)
  | _, .nil, _, _ => ⟨rfl, fun h => by simp [Siblings.results?] at h⟩
  | _, .cons first rest, hcalm, hd => by
    obtain ⟨hfirst, hrest⟩ := hcalm
    obtain ⟨hdf, hdr⟩ := Siblings.le_due?_cons hd
    obtain ⟨hc, hf⟩ := Siblings.course_of_calm delays hle (i + 1) rest hrest hdr
    have hge := Siblings.le_finish contents delays later (i + 1) rest
    rcases hfirst with ⟨a, rfl⟩ | hb
    · refine ⟨by simp [Siblings.course, Work.course, Course.ending, hc], fun hn => ?_⟩
      simp only [Siblings.results?_cons_ended, Option.map_eq_none_iff] at hn
      have hf := hf hn
      simp only [Siblings.finish, Work.finish]
      omega
    · obtain ⟨hc', hf'⟩ := Work.course_of_blocked (delays.below i) hle first hb hdf
      have hge' := Work.le_finish contents (delays.below i) later first
      refine ⟨by simp [Siblings.course, hc, hc'], fun _ => ?_⟩
      cases hn : rest.results? with
      | none => simp [Siblings.finish, hf hn, hf']
      | some results =>
        -- the rest has ended, so the end is that of the first
        have hl := (Siblings.course_of_results? contents delays later (i + 1) hn).2
        have hw := (Siblings.course_of_results? contents delays now (i + 1) hn).2
        simp only [Siblings.finish]
        omega
end

end

namespace Course

theorem orderedInsert_append {o : Occurrence} {left : Course} (right : Course)
    (h : ∀ b ∈ left, b.time < o.time) :
    (left ++ right).orderedInsert Occurrence.NoLater o =
      left ++ right.orderedInsert Occurrence.NoLater o := by
  induction left with
  | nil => rfl
  | cons b rest ih =>
    have hb : ¬ o.NoLater b := Nat.not_le.2 (h b (by simp))
    rw [List.cons_append, List.orderedInsert_of_not_le _ _ hb, ih fun c hc => h c (by simp [hc]),
      List.cons_append]

theorem inTime_eq_upTo_append {now : Nat} {course : Course} (h : ∀ o ∈ course, now ≤ o.time) :
    course.inTime = course.upTo now ++ (course.beyond now).inTime := by
  induction course with
  | nil => rfl
  | cons o rest ih =>
    have hrest : ∀ b ∈ rest, now ≤ b.time := fun b hb => h b (by simp [hb])
    have ih : rest.insertionSort Occurrence.NoLater = upTo now rest ++ inTime (beyond now rest) :=
      ih hrest
    by_cases ho : o.time ≤ now
    · have hu : upTo now (o :: rest) = o :: upTo now rest := by simp [upTo, ho]
      have hb : beyond now (o :: rest) = beyond now rest := by simp [beyond, ho]
      have hfirst : ∀ b ∈ rest, o.NoLater b := fun b hb => Nat.le_trans ho (hrest b hb)
      rw [hu, hb, inTime, List.insertionSort_cons_of_forall_rel _ hfirst, ih, List.cons_append]
    · have hu : upTo now (o :: rest) = upTo now rest := by simp [upTo, ho]
      have hb : beyond now (o :: rest) = o :: beyond now rest := by simp [beyond, Nat.not_le.1 ho]
      have hlate : ∀ b ∈ upTo now rest, b.time < o.time := by
        intro b hb
        have hb : b.time ≤ now := by simpa using (List.mem_filter.1 hb).2
        omega
      rw [hu, hb, inTime, List.insertionSort_cons, ih, orderedInsert_append _ hlate]
      rfl

end Course

theorem Work.course_instant {α : Type} (contents : Contents) (delays : Delays) {now : Nat}
    {work : Work α} (hw : work.due? = none ∨ work.Blocked now) :
    work.course contents delays (work.instant now) = work.course contents delays now ∧
      work.finish contents delays (work.instant now) = work.finish contents delays now := by
  unfold instant
  cases hd : work.due? with
  | none => simp
  | some due =>
    rcases Nat.le_total due now with hle | hle
    · have hm : max now due = now := Nat.max_eq_left hle
      simp [hm]
    · have hm : max now due = due := Nat.max_eq_right hle
      have hb : work.Blocked now := hw.resolve_left (by simp [hd])
      have hdue : ∀ d, work.due? = some d → due ≤ d := by simp [hd]
      simpa [hm] using work.course_of_blocked contents delays hle hb hdue

theorem Course.time_of_fault? {course : Course} {f : Nat × Position × StorageError}
    (h : course.fault? = some f) : ∃ o ∈ course, o.time = f.1 := by
  induction course with
  | nil => simp [fault?] at h
  | cons o rest ih =>
    obtain ⟨time, position, act⟩ := o
    cases act with
    | event event =>
      obtain ⟨o, ho, ht⟩ := ih h
      exact ⟨o, by simp [ho], ht⟩
    | fault e =>
      simp only [fault?, Option.some.injEq] at h
      exact ⟨_, List.mem_cons_self, by rw [← h]⟩

theorem Course.events_at {now : Nat} {course : Course} (h : ∀ o ∈ course, o.time = now) :
    (course.events.map Prod.snd).map (now, ·) = course.events := by
  induction course with
  | nil => rfl
  | cons o rest ih =>
    obtain ⟨time, position, act⟩ := o
    obtain rfl : time = now := h _ List.mem_cons_self
    cases act with
    | event event =>
      exact congrArg _ (ih fun o ho => h o (List.mem_cons_of_mem _ ho))
    | fault e => rfl

/-- A run goes through the course in the order of time and ends with the first failure. -/
theorem Work.run_course {α : Type} (contents : Contents) (delays : Delays) (now : Nat) (work : Work α)
    (hw : work.due? = none ∨ work.Blocked now)
    (h : work.Eager ∨ (work.course contents delays now).Faultless) :
    (work.run contents delays now).events = (work.course contents delays now).inTime.events ∧
      match (work.course contents delays now).inTime.fault? with
      | some (time, _, e) => (work.run contents delays now).outcome = .error e ∧
          (work.run contents delays now).finish = time
      | none => (work.run contents delays now).outcome = work.value contents ∧
          (work.run contents delays now).finish = work.finish contents delays now := by
  induction hn : work.weight contents using Nat.strongRecOn generalizing work now with
  | ind n ih =>
    cases ho : work.outcome? with
    | some outcome =>
      obtain rfl := outcome?_eq_some.1 ho
      rw [run_of_outcome contents delays now ho]
      cases outcome with
      | ok a => exact ⟨rfl, rfl, rfl⟩
      | error e => exact ⟨rfl, rfl, rfl⟩
    | none =>
      obtain ⟨hc, hfin⟩ := course_instant contents delays hw
      have hlt := weight_turn_lt contents delays now ho
      have hrun := run_of_pending contents delays now ho
      generalize work.instant now = instant at hc hfin hlt hrun
      -- waiting changes nothing, so the course may as well begin at the instant of the turn
      rw [← hc] at h ⊢
      rw [← hfin, hrun]
      have hge := work.le_time_course contents delays instant
      have hsort := Course.inTime_eq_upTo_append hge
      have hat : ∀ o ∈ (work.course contents delays instant).upTo instant, o.time = instant := by
        intro o ho
        have hle : o.time ≤ instant := by simpa using (List.mem_filter.1 ho).2
        exact Nat.le_antisymm hle (hge o (List.mem_of_mem_filter ho))
      have hturn := work.turn_poll contents instant delays h
      generalize work.poll contents instant delays = turn at hlt hturn
      obtain ⟨events, rest⟩ := turn
      cases hturn with
      | fails f hev hfault hrest =>
        obtain rfl := hrest
        have hev : events.map (instant, ·) = _ := (congrArg _ hev).trans (Course.events_at hat)
        obtain ⟨o, ho, htime⟩ := Course.time_of_fault? hfault
        rw [run_of_outcome contents delays instant rfl, hsort, Course.events_append_of_fault hfault,
          Course.fault?_append, hfault]
        exact ⟨by simpa [Timeline.after, Timeline.atOnce] using hev, rfl, (hat o ho).symm.trans htime⟩
      | goesOn hev hfaultless leaves =>
        have hev : events.map (instant, ·) = _ := (congrArg _ hev).trans (Course.events_at hat)
        -- what is left meets the hypotheses again
        have hw' : rest.due? = none ∨ rest.Blocked instant := by
          rcases leaves.settled with ⟨a, ha⟩ | hb
          · obtain rfl : rest = _ := ha
            exact .inl rfl
          · exact .inr hb
        have h' : rest.Eager ∨ (rest.course contents delays instant).Faultless :=
          h.imp leaves.eager fun h => leaves.course ▸ h.beyond instant
        obtain ⟨hevents, hend⟩ := ih _ (hn ▸ hlt) instant rest hw' h' rfl
        rw [leaves.course] at hevents hend
        rw [leaves.value, leaves.finish] at hend
        rw [hsort, Course.events_append hfaultless, Course.fault?_append, hfaultless]
        refine ⟨?_, hend⟩
        simp only [Timeline.after, hev, hevents]

theorem Work.toOption_outcome_run {α : Type} (contents : Contents) (delays : Delays) (now : Nat)
    (work : Work α) : (work.run contents delays now).outcome.toOption =
      (work.value contents).toOption := by
  induction hn : work.weight contents using Nat.strongRecOn generalizing work now with
  | ind n ih =>
    cases ho : work.outcome? with
    | some outcome =>
      obtain rfl := outcome?_eq_some.1 ho
      rw [run_of_outcome contents delays now ho]
      rfl
    | none =>
      rw [run_of_pending contents delays now ho,
        ← work.toOption_value_poll contents (work.instant now) delays]
      exact ih _ (hn ▸ weight_turn_lt contents delays now ho) _ _ rfl

theorem Work.outcome_run_eq_ok {α : Type} {contents : Contents} {delays : Delays} {now : Nat}
    {work : Work α} {a : α} :
    (work.run contents delays now).outcome = .ok a ↔ work.value contents = .ok a := by
  have h := work.toOption_outcome_run contents delays now
  cases hr : (work.run contents delays now).outcome <;> cases hv : work.value contents <;>
    simp_all [Except.toOption]

end StorageQuery
