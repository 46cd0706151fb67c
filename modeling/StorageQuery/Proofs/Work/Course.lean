import Mathlib.Data.List.Sort
import StorageQuery.Answer.Work
/-!
The course of a work: all that would happen if no failure stopped it, each thing with its instant. It
is read off the work part by part, siblings one behind the other, so that it knows neither turns nor
the order in which look-ups end.
-/

set_option autoImplicit false

namespace StorageQuery

inductive Act where
  | event (event : Event)
  | fault (error : StorageError)

structure Occurrence where
  time : Nat
  position : Position
  act : Act

abbrev Course := List Occurrence

namespace Occurrence

def under (i : Nat) (o : Occurrence) : Occurrence := { o with position := i :: o.position }

def isFault (o : Occurrence) : Bool :=
  match o.act with
  | .event _ => false
  | .fault _ => true

def NoLater (a b : Occurrence) : Prop := a.time ≤ b.time

instance : DecidableRel NoLater := fun a b => inferInstanceAs (Decidable (a.time ≤ b.time))

@[simp] theorem isFault_under (i : Nat) (o : Occurrence) : (o.under i).isFault = o.isFault := rfl

end Occurrence

namespace Course

def under (i : Nat) (course : Course) : Course := course.map (Occurrence.under i)

def events : Course → List (Nat × Position × Event)
  | [] => []
  | ⟨time, position, .event event⟩ :: rest => (time, position, event) :: events rest
  | ⟨_, _, .fault _⟩ :: _ => []

def fault? : Course → Option (Nat × Position × StorageError)
  | [] => none
  | ⟨_, _, .event _⟩ :: rest => fault? rest
  | ⟨time, position, .fault e⟩ :: _ => some (time, position, e)

def Faultless (course : Course) : Prop := ∀ o ∈ course, o.isFault = false

def upTo (now : Nat) (course : Course) : Course := course.filter fun o => decide (o.time ≤ now)

def beyond (now : Nat) (course : Course) : Course := course.filter fun o => decide (now < o.time)

/-- By time; what happens at one instant stays in its order. -/
def inTime (course : Course) : Course := course.insertionSort Occurrence.NoLater

theorem fault?_eq_none_iff {course : Course} : course.fault? = none ↔ course.Faultless := by
  induction course with
  | nil => simp [fault?, Faultless]
  | cons o rest ih =>
    obtain ⟨time, position, act⟩ := o
    cases act with
    | event event => simpa [fault?, Faultless, Occurrence.isFault] using ih
    | fault e => simp [fault?, Faultless, Occurrence.isFault]

theorem fault?_append (left right : Course) :
    (left ++ right).fault? = left.fault?.or right.fault? := by
  induction left with
  | nil => simp [fault?]
  | cons o rest ih =>
    obtain ⟨time, position, act⟩ := o
    cases act with
    | event event => exact ih
    | fault e => simp [fault?]

theorem events_append {left : Course} (h : left.fault? = none) (right : Course) :
    (left ++ right).events = left.events ++ right.events := by
  induction left with
  | nil => simp [events]
  | cons o rest ih =>
    obtain ⟨time, position, act⟩ := o
    cases act with
    | event event => simpa [events] using ih h
    | fault e => simp [fault?] at h

theorem events_append_of_fault {left : Course} {f : Nat × Position × StorageError}
    (h : left.fault? = some f) (right : Course) : (left ++ right).events = left.events := by
  induction left with
  | nil => simp [fault?] at h
  | cons o rest ih =>
    obtain ⟨time, position, act⟩ := o
    cases act with
    | event event => simpa [events] using ih h
    | fault e => simp [events]

theorem fault?_under (i : Nat) (course : Course) :
    (course.under i).fault? =
      course.fault?.map fun (time, position, e) => (time, i :: position, e) := by
  induction course with
  | nil => rfl
  | cons o rest ih =>
    obtain ⟨time, position, act⟩ := o
    cases act with
    | event event => exact ih
    | fault e => rfl

theorem events_under (i : Nat) (course : Course) :
    (course.under i).events =
      course.events.map fun (time, position, event) => (time, i :: position, event) := by
  induction course with
  | nil => rfl
  | cons o rest ih =>
    obtain ⟨time, position, act⟩ := o
    cases act with
    | event event => exact congrArg _ ih
    | fault e => rfl

theorem mem_under {i : Nat} {course : Course} {o : Occurrence} :
    o ∈ course.under i ↔ ∃ o' ∈ course, o'.under i = o := List.mem_map

@[simp] theorem upTo_append (now : Nat) (left right : Course) :
    (left ++ right).upTo now = left.upTo now ++ right.upTo now := List.filter_append ..

@[simp] theorem beyond_append (now : Nat) (left right : Course) :
    (left ++ right).beyond now = left.beyond now ++ right.beyond now := List.filter_append ..

theorem upTo_under (now i : Nat) (course : Course) :
    (course.under i).upTo now = (course.upTo now).under i := by
  rw [upTo, under, List.filter_map]
  rfl

theorem beyond_under (now i : Nat) (course : Course) :
    (course.under i).beyond now = (course.beyond now).under i := by
  rw [beyond, under, List.filter_map]
  rfl

theorem upTo_eq_nil {now : Nat} {course : Course} (h : ∀ o ∈ course, now < o.time) :
    course.upTo now = [] := by
  simp only [upTo, List.filter_eq_nil_iff, decide_eq_true_eq]
  exact fun o ho => Nat.not_le.2 (h o ho)

theorem beyond_eq_self {now : Nat} {course : Course} (h : ∀ o ∈ course, now < o.time) :
    course.beyond now = course := by
  simp only [beyond, List.filter_eq_self, decide_eq_true_eq]
  exact h

theorem Faultless.upTo {course : Course} (h : course.Faultless) (now : Nat) :
    (course.upTo now).Faultless := fun o ho => h o (List.mem_of_mem_filter ho)

theorem Faultless.beyond {course : Course} (h : course.Faultless) (now : Nat) :
    (course.beyond now).Faultless := fun o ho => h o (List.mem_of_mem_filter ho)

end Course

section
variable (contents : Contents)

mutual
def Work.finish : {α : Type} → Delays → Nat → Work α → Nat
  | _, _, now, .ended _ => now
  | _, _, now, .note _ => now
  | _, delays, now, .ask pointer key => now + delays [] pointer key
  | _, _, now, .waiting due _ _ => max now due
  | _, delays, now, .andThen first next =>
    match first.value contents with
    | .ok a => (next a).finish delays (first.finish delays now)
    | .error _ => first.finish delays now
  | _, delays, now, .all _ siblings => siblings.finish delays now 0
def Siblings.finish : {α : Type} → Delays → Nat → Nat → Siblings α → Nat
  | _, _, now, _, .nil => now
  | _, delays, now, i, .cons first rest =>
    max (first.finish (delays.below i) now) (rest.finish delays now (i + 1))
end

def Course.ending {α : Type} (now : Nat) : Except StorageError α → Course
  | .ok _ => []
  | .error e => [⟨now, [], .fault e⟩]

def Course.onSuccess {α : Type} (outcome : Except StorageError α) (next : α → Course) : Course :=
  match outcome with
  | .ok a => next a
  | .error _ => []

mutual
def Work.course : {α : Type} → Delays → Nat → Work α → Course
  | _, _, now, .ended outcome => Course.ending now outcome
  | _, _, now, .note notes => notes.map fun note => ⟨now, [], .event (.noted note)⟩
  | _, delays, now, .ask pointer key =>
    ⟨now, [], .event (.started pointer key)⟩ ::
      ⟨now + delays [] pointer key, [], .event (.completed pointer key)⟩ ::
        Course.ending (now + delays [] pointer key) (contents pointer key)
  | _, _, now, .waiting due pointer key =>
    ⟨max now due, [], .event (.completed pointer key)⟩ ::
      Course.ending (max now due) (contents pointer key)
  | _, delays, now, .andThen first next =>
    first.course delays now ++ Course.onSuccess (first.value contents) fun a =>
      (next a).course delays (first.finish contents delays now)
  | _, delays, now, .all _ siblings => siblings.course delays now 0
/-- The courses of the siblings from the place `i` on. -/
def Siblings.course : {α : Type} → Delays → Nat → Nat → Siblings α → Course
  | _, _, _, _, .nil => []
  | _, delays, now, i, .cons first rest =>
    (first.course (delays.below i) now).under i ++ rest.course delays now (i + 1)
end

mutual
theorem Work.le_finish (delays : Delays) (now : Nat) :
    {α : Type} → (work : Work α) → now ≤ work.finish contents delays now
  | _, .ended _ => Nat.le_refl _
  | _, .note _ => Nat.le_refl _
  | _, .ask _ _ => Nat.le_add_right ..
  | _, .waiting _ _ _ => Nat.le_max_left ..
  | _, .andThen first next => by
    have hf := Work.le_finish delays now first
    simp only [Work.finish]
    split
    · rename_i a _
      exact Nat.le_trans hf (Work.le_finish delays _ (next a))
    · exact hf
  | _, .all _ siblings => Siblings.le_finish delays now 0 siblings
theorem Siblings.le_finish (delays : Delays) (now i : Nat) :
    {α : Type} → (siblings : Siblings α) → now ≤ siblings.finish contents delays now i
  | _, .nil => Nat.le_refl _
  | _, .cons first _ =>
    Nat.le_trans (Work.le_finish (delays.below i) now first) (Nat.le_max_left ..)
end

theorem Course.time_ending {α : Type} {now : Nat} {outcome : Except StorageError α}
    {o : Occurrence} (h : o ∈ Course.ending now outcome) : o.time = now := by
  cases outcome <;> simp_all [ending]

theorem Course.mem_onSuccess {α : Type} {outcome : Except StorageError α} {next : α → Course}
    {o : Occurrence} : o ∈ Course.onSuccess outcome next ↔ ∃ a, outcome = .ok a ∧ o ∈ next a := by
  cases outcome <;> simp [onSuccess]

mutual
theorem Work.le_time_course (delays : Delays) (now : Nat) : {α : Type} → (work : Work α) →
    ∀ o ∈ work.course contents delays now, now ≤ o.time
  | _, .ended _, o, ho => Nat.le_of_eq (Course.time_ending ho).symm
  | _, .note _, o, ho => by
    obtain ⟨_, _, rfl⟩ := List.mem_map.1 ho
    exact Nat.le_refl _
  | _, .ask pointer key, o, ho => by
    rcases List.mem_cons.1 ho with rfl | ho
    · exact Nat.le_refl _
    rcases List.mem_cons.1 ho with rfl | ho
    · exact Nat.le_add_right ..
    · rw [Course.time_ending ho]
      exact Nat.le_add_right ..
  | _, .waiting due pointer key, o, ho => by
    rcases List.mem_cons.1 ho with rfl | ho
    · exact Nat.le_max_left ..
    · rw [Course.time_ending ho]
      exact Nat.le_max_left ..
  | _, .andThen first next, o, ho => by
    simp only [Work.course, List.mem_append] at ho
    rcases ho with ho | ho
    · exact Work.le_time_course delays now first o ho
    · obtain ⟨a, -, ho⟩ := Course.mem_onSuccess.1 ho
      exact Nat.le_trans (Work.le_finish contents delays now first)
        (Work.le_time_course delays _ (next a) o ho)
  | _, .all _ siblings, o, ho => Siblings.le_time_course delays now 0 siblings o ho
theorem Siblings.le_time_course (delays : Delays) (now i : Nat) :
    {α : Type} → (siblings : Siblings α) → ∀ o ∈ siblings.course contents delays now i, now ≤ o.time
  | _, .nil, o, ho => by simp [Siblings.course] at ho
  | _, .cons first rest, o, ho => by
    rcases List.mem_append.1 ho with ho | ho
    · obtain ⟨o', ho', rfl⟩ := Course.mem_under.1 ho
      exact Work.le_time_course (delays.below i) now first o' ho'
    · exact Siblings.le_time_course delays now (i + 1) rest o ho
end

theorem Course.faultless_append {left right : Course} :
    (left ++ right).Faultless ↔ left.Faultless ∧ right.Faultless := by
  simp only [Faultless, List.mem_append, or_imp, forall_and]

theorem Course.faultless_under {i : Nat} {course : Course} :
    (course.under i).Faultless ↔ course.Faultless := by
  simp [Faultless, under]

mutual
/-- The course of a work has a failure if, and only if, the work fails. -/
theorem Work.faultless_course_iff (delays : Delays) (now : Nat) : {α : Type} → (work : Work α) →
    ((work.course contents delays now).Faultless ↔ ∃ a, work.value contents = .ok a)
  | _, .ended outcome => by
    cases outcome <;> simp [Work.course, Course.ending, Work.value, Course.Faultless, Occurrence.isFault]
  | _, .note _ => by simp [Work.course, Work.value, Course.Faultless, Occurrence.isFault]
  | _, .ask pointer key => by
    cases h : contents pointer key <;>
      simp [Work.course, Course.ending, Work.value, Course.Faultless, Occurrence.isFault, h]
  | _, .waiting due pointer key => by
    cases h : contents pointer key <;>
      simp [Work.course, Course.ending, Work.value, Course.Faultless, Occurrence.isFault, h]
  | _, .andThen first next => by
    have hf := Work.faultless_course_iff delays now first
    simp only [Work.course, Course.faultless_append, hf, Work.value]
    cases h : first.value contents with
    | error e => simp
    | ok a => simpa [Course.onSuccess] using Work.faultless_course_iff delays _ (next a)
  | _, .all _ siblings => Siblings.faultless_course_iff delays now 0 siblings
theorem Siblings.faultless_course_iff (delays : Delays) (now i : Nat) :
    {α : Type} → (siblings : Siblings α) →
    ((siblings.course contents delays now i).Faultless ↔ ∃ as, siblings.values contents = .ok as)
  | _, .nil => by simp [Siblings.course, Course.Faultless, Siblings.values]
  | _, .cons first rest => by
    have hf := Work.faultless_course_iff (delays.below i) now first
    have hr := Siblings.faultless_course_iff delays now (i + 1) rest
    simp only [Siblings.course, Course.faultless_append, Course.faultless_under, hf, hr, Siblings.values]
    cases h : first.value contents <;> cases h' : rest.values contents <;> simp [Except.map]
end

end

end StorageQuery
