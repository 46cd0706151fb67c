import StorageQuery.Proofs.Work.Run
/-!
The order of time among things with positions: the earlier first, and of those at one instant the one
whose position comes first. In a course whose positions do not go back this is the order in which a run
does things, so that the first failure of the run is the least, and what is done is what is not after it.
-/

set_option autoImplicit false

namespace StorageQuery

def Precedes (a b : Nat × Position) : Prop := a.1 < b.1 ∨ a.1 = b.1 ∧ a.2 < b.2

instance : DecidableRel Precedes := fun _ _ => inferInstanceAs (Decidable (_ ∨ _))

def Event.isNote : Event → Bool
  | .noted _ => true
  | _ => false

namespace Occurrence

def isNote (o : Occurrence) : Bool :=
  match o.act with
  | .event event => event.isNote
  | .fault _ => false

def moment (o : Occurrence) : Nat × Position := (o.time, o.position)

def event? (o : Occurrence) : Option (Nat × Position × Event) :=
  match o.act with
  | .event event => some (o.time, o.position, event)
  | .fault _ => none

def Above (a b : Occurrence) : Prop :=
  a.position < b.position ∨ a.position = b.position ∧ a.isFault = false

def Timed (r : Occurrence → Occurrence → Prop) (a b : Occurrence) : Prop :=
  a.time < b.time ∨ a.time = b.time ∧ r a b

theorem not_precedes_of_above {a b : Occurrence} (h : Timed Above a b) :
    ¬ Precedes b.moment a.moment := by
  rintro (hlt | ⟨heq, hpos⟩)
  · rcases h with hab | ⟨hab, -⟩
    · exact Nat.lt_asymm hab hlt
    · exact Nat.ne_of_lt hlt hab.symm
  · rcases h with hab | ⟨-, hab | ⟨hab, -⟩⟩
    · exact Nat.ne_of_lt hab heq.symm
    · exact List.lt_asymm hab hpos
    · have hpos : b.position < a.position := hpos
      rw [hab] at hpos
      exact List.lt_irrefl _ hpos

theorem precedes_of_above {a b : Occurrence} (h : Timed Above a b) (ha : a.isFault = true) :
    Precedes a.moment b.moment := by
  rcases h with hab | ⟨hab, hpos | ⟨-, hn⟩⟩
  · exact .inl hab
  · exact .inr ⟨hab, hpos⟩
  · simp [ha] at hn

end Occurrence

namespace Course

def happenings (course : Course) : List (Nat × Position × Event) :=
  course.filterMap Occurrence.event?

@[simp] theorem happenings_append (left right : Course) :
    (left ++ right).happenings = left.happenings ++ right.happenings := List.filterMap_append ..

theorem happenings_filter (p : Nat × Position → Bool) (course : Course) :
    happenings (course.filter fun o => p o.moment) =
      course.happenings.filter fun event => p (event.1, event.2.1) := by
  induction course with
  | nil => rfl
  | cons o rest ih =>
    obtain ⟨time, position, act⟩ := o
    cases act with
    | event event =>
      cases hp : p (time, position) <;>
        simp_all [happenings, Occurrence.moment, Occurrence.event?]
    | fault e =>
      rw [List.filter_cons]
      split <;> exact ih

theorem pairwise_orderedInsert {r : Occurrence → Occurrence → Prop} {o : Occurrence} {course : Course}
    (ho : ∀ b ∈ course, r o b) (h : course.Pairwise (Occurrence.Timed r)) :
    (course.orderedInsert Occurrence.NoLater o).Pairwise (Occurrence.Timed r) := by
  induction course with
  | nil => simp
  | cons b rest ih =>
    obtain ⟨hb, hrest⟩ := List.pairwise_cons.1 h
    by_cases hle : o.NoLater b
    · rw [List.orderedInsert_cons_of_le _ _ hle]
      refine List.pairwise_cons.2 ⟨fun c hc => ?_, h⟩
      have hoc : o.time ≤ c.time := by
        rcases List.mem_cons.1 hc with rfl | hc
        · exact hle
        · rcases hb c hc with hlt | ⟨heq, -⟩
          · exact Nat.le_of_lt (Nat.lt_of_le_of_lt hle hlt)
          · exact heq ▸ hle
      rcases Nat.lt_or_eq_of_le hoc with hlt | heq
      · exact .inl hlt
      · exact .inr ⟨heq, ho c hc⟩
    · rw [List.orderedInsert_of_not_le _ _ hle]
      refine List.pairwise_cons.2 ⟨fun c hc => ?_, ih (fun c hc => ho c (by simp [hc])) hrest⟩
      rcases List.mem_orderedInsert _ |>.1 hc with rfl | hc
      · exact .inl (Nat.not_le.1 hle)
      · exact hb c hc

theorem pairwise_inTime {r : Occurrence → Occurrence → Prop} {course : Course}
    (h : course.Pairwise r) : course.inTime.Pairwise (Occurrence.Timed r) := by
  induction course with
  | nil => exact .nil
  | cons o rest ih =>
    obtain ⟨ho, hrest⟩ := List.pairwise_cons.1 h
    refine pairwise_orderedInsert (fun b hb => ho b ?_) (ih hrest)
    exact (List.mem_insertionSort _).1 hb

theorem inTime_perm (course : Course) : course.inTime.Perm course :=
  List.perm_insertionSort _ course

theorem events_eq_happenings {course : Course} (h : course.fault? = none) :
    course.events = course.happenings := by
  induction course with
  | nil => rfl
  | cons o rest ih =>
    obtain ⟨time, position, act⟩ := o
    cases act with
    | event event => exact congrArg _ (ih h)
    | fault e => simp [fault?] at h

/-- The first failure of a course in order is the least, and what happens before it is what is not after
it. -/
theorem events_of_fault? {course : Course} (h : course.Pairwise (Occurrence.Timed Occurrence.Above))
    {time : Nat} {position : Position} {e : StorageError}
    (hf : course.fault? = some (time, position, e)) :
    (⟨time, position, .fault e⟩ ∈ course) ∧
    (∀ o ∈ course, o.isFault = true →
      o = ⟨time, position, .fault e⟩ ∨ Precedes (time, position) o.moment) ∧
    course.events = happenings (course.filter fun o => !decide (Precedes (time, position) o.moment)) := by
  induction course with
  | nil => simp [fault?] at hf
  | cons o rest ih =>
    obtain ⟨ho, hrest⟩ := List.pairwise_cons.1 h
    obtain ⟨t, p, act⟩ := o
    cases act with
    | event event =>
      obtain ⟨hmem, hleast, hev⟩ := ih hrest hf
      refine ⟨List.mem_cons_of_mem _ hmem, fun o hmem hfault => ?_, ?_⟩
      · rcases List.mem_cons.1 hmem with rfl | hmem
        · simp [Occurrence.isFault] at hfault
        · exact hleast o hmem hfault
      · have hn : ¬ Precedes (time, position) (t, p) := Occurrence.not_precedes_of_above (ho _ hmem)
        rw [List.filter_cons_of_pos (by simp [Occurrence.moment, hn])]
        exact congrArg _ hev
    | fault e' =>
      simp only [fault?, Option.some.injEq, Prod.mk.injEq] at hf
      obtain ⟨rfl, rfl, rfl⟩ := hf
      -- a failure is above nothing at its own position, so all the rest is after it
      have hafter : ∀ o ∈ rest, Precedes (t, p) o.moment := fun o ho' =>
        Occurrence.precedes_of_above (ho o ho') rfl
      refine ⟨List.mem_cons_self, fun o hmem _ => ?_, ?_⟩
      · exact (List.mem_cons.1 hmem).imp id (hafter o)
      · have hself : ¬ Precedes (t, p) (t, p) := by
          rintro (hlt | ⟨-, hlt⟩)
          · exact Nat.lt_irrefl _ hlt
          · exact List.lt_irrefl _ hlt
        have hnil : (rest.filter fun o => !decide (Precedes (t, p) o.moment)) = [] := by
          simpa [List.filter_eq_nil_iff] using hafter
        rw [List.filter_cons_of_pos (by simp [Occurrence.moment, hself]), hnil]
        rfl

def quiet (course : Course) : Course := course.filter fun o => !o.isNote

@[simp] theorem quiet_nil : quiet [] = [] := rfl

@[simp] theorem quiet_append (left right : Course) :
    (left ++ right).quiet = left.quiet ++ right.quiet := List.filter_append ..

theorem quiet_under (i : Nat) (course : Course) : (course.under i).quiet = course.quiet.under i := by
  rw [quiet, under, List.filter_map]
  rfl

@[simp] theorem quiet_ending {α : Type} (now : Nat) (outcome : Except StorageError α) :
    quiet (ending now outcome) = ending now outcome := by
  cases outcome <;> rfl

@[simp] theorem quiet_notes (now : Nat) (notes : List Note) :
    quiet (notes.map fun note => ⟨now, [], .event (.noted note)⟩) = [] := by
  simp [quiet, Occurrence.isNote, Event.isNote]

theorem fault?_quiet (course : Course) : course.quiet.fault? = course.fault? := by
  induction course with
  | nil => rfl
  | cons o rest ih =>
    obtain ⟨time, position, act⟩ := o
    cases act with
    | event event => cases event <;> exact ih
    | fault e => rfl

theorem events_quiet (course : Course) :
    course.quiet.events = course.events.filter fun event => !event.2.2.isNote := by
  induction course with
  | nil => rfl
  | cons o rest ih =>
    obtain ⟨time, position, act⟩ := o
    cases act with
    | event event =>
      cases event with
      | started pointer key => exact congrArg _ ih
      | completed pointer key => exact congrArg _ ih
      | noted note => exact ih
    | fault e => rfl

theorem quiet_inTime_perm (course : Course) : course.inTime.quiet.Perm course.quiet :=
  course.inTime_perm.filter _

theorem pairwise_quiet_inTime {r : Occurrence → Occurrence → Prop} {course : Course}
    (h : course.quiet.Pairwise r) : course.inTime.quiet.Pairwise (Occurrence.Timed r) := by
  have h := pairwise_inTime (List.pairwise_filter.1 h)
  refine List.pairwise_filter.2 (h.imp fun hab ha hb => ?_)
  exact hab.imp id fun ⟨heq, hr⟩ => ⟨heq, hr ha hb⟩

end Course

def Timeline.quiet {α : Type} (run : Timeline (Position × Event) α) : List (Nat × Position × Event) :=
  run.events.filter fun event => !event.2.2.isNote

section
variable {α : Type} {contents : Contents} {delays : Delays} {now : Nat} {work : Work α}

/-- A work in which nothing fails does all of its course. -/
theorem Work.run_of_faultless (hw : work.due? = none ∨ work.Blocked now)
    (h : (work.course contents delays now).Faultless) :
    (work.run contents delays now).quiet.Perm (work.course contents delays now).quiet.happenings ∧
      (work.run contents delays now).outcome = work.value contents ∧
      (work.run contents delays now).finish = work.finish contents delays now := by
  obtain ⟨hev, hend⟩ := run_course contents delays now work hw (.inr h)
  have hf : (work.course contents delays now).inTime.fault? = none :=
    Course.fault?_eq_none_iff.2 fun o ho => h o ((Course.inTime_perm _).mem_iff.1 ho)
  rw [hf] at hend
  refine ⟨?_, hend⟩
  rw [Timeline.quiet, hev, ← Course.events_quiet,
    Course.events_eq_happenings ((Course.fault?_quiet _).trans hf)]
  exact (Course.quiet_inTime_perm _).filterMap _

/-- A work in which something fails ends with the least failure and does what is not after it. -/
theorem Work.run_of_fault (hw : work.due? = none ∨ work.Blocked now) (he : work.Eager)
    (ho : (work.course contents delays now).quiet.Pairwise Occurrence.Above)
    (h : ¬ (work.course contents delays now).Faultless) :
    ∃ time position e,
      ⟨time, position, .fault e⟩ ∈ (work.course contents delays now).quiet ∧
      (∀ o ∈ (work.course contents delays now).quiet, o.isFault = true →
        o = ⟨time, position, .fault e⟩ ∨ Precedes (time, position) o.moment) ∧
      (work.run contents delays now).outcome = .error e ∧
      (work.run contents delays now).finish = time ∧
      (work.run contents delays now).quiet.Perm (Course.happenings
        ((work.course contents delays now).quiet.filter fun o =>
          !decide (Precedes (time, position) o.moment))) := by
  obtain ⟨hev, hend⟩ := run_course contents delays now work hw (.inl he)
  cases hf : (work.course contents delays now).inTime.fault? with
  | none =>
    have hf := Course.fault?_eq_none_iff.1 hf
    exact absurd (fun o ho => hf o ((Course.inTime_perm _).mem_iff.2 ho)) h
  | some fault =>
    obtain ⟨time, position, e⟩ := fault
    rw [hf] at hend
    have hperm := (work.course contents delays now).quiet_inTime_perm
    obtain ⟨hmem, hleast, hevents⟩ := Course.events_of_fault? (Course.pairwise_quiet_inTime ho)
      ((Course.fault?_quiet _).trans hf)
    refine ⟨time, position, e, hperm.mem_iff.1 hmem, fun o ho => hleast o (hperm.mem_iff.2 ho), hend.1,
      hend.2, ?_⟩
    rw [Timeline.quiet, hev, ← Course.events_quiet, hevents]
    exact (hperm.filter _).filterMap _

end

end StorageQuery
