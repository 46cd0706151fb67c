import StorageQuery.Proofs.Work.Order
set_option autoImplicit false

namespace StorageQuery

def Event.note? : Event → Option Note
  | .noted note => some note
  | _ => none

theorem Event.note?_eq_some {event : Event} {note : Note} : event.note? = some note ↔ event = .noted note := by
  cases event <;> simp [note?]

mutual
def Work.Notes (P : Note → Prop) : {α : Type} → Work α → Prop
  | _, .note notes => ∀ note ∈ notes, P note
  | _, .andThen first next => first.Notes P ∧ ∀ a, (next a).Notes P
  | _, .all _ siblings => siblings.Notes P
  | _, .ended _ | _, .ask _ _ | _, .waiting _ _ _ => True
def Siblings.Notes (P : Note → Prop) : {α : Type} → Siblings α → Prop
  | _, .nil => True
  | _, .cons first rest => first.Notes P ∧ rest.Notes P
end

section
variable {P : Note → Prop} {contents : Contents}

theorem Siblings.notes_gather {α : Type} {siblings : Siblings α} (h : siblings.Notes P) (patient : Bool) :
    (siblings.gather patient).Notes P := by
  unfold gather
  split
  · trivial
  · exact h

def AllNotes (P : Note → Prop) (events : List (Position × Event)) : Prop :=
  ∀ event ∈ events, ∀ note, event.2.note? = some note → P note

theorem allNotes_append {left right : List (Position × Event)} :
    AllNotes P (left ++ right) ↔ AllNotes P left ∧ AllNotes P right := List.forall_mem_append

theorem allNotes_under {i : Nat} {events : List (Position × Event)} (h : AllNotes P events) :
    AllNotes P (StorageQuery.under i events) := by
  rintro _ hm note hn
  obtain ⟨event, he, rfl⟩ := List.mem_map.1 hm
  exact h event he note hn

mutual
theorem Work.notes_poll (now : Nat) : {α : Type} → (delays : Delays) → (work : Work α) → work.Notes P →
    AllNotes P (work.poll contents now delays).1 ∧ (work.poll contents now delays).2.Notes P
  | _, _, .ended _, _ => ⟨nofun, trivial⟩
  | _, _, .note notes, h => by
    refine ⟨?_, trivial⟩
    rintro _ hm note hn
    obtain ⟨note', hnote, rfl⟩ := List.mem_map.1 hm
    cases hn
    exact h _ hnote
  | _, delays, .ask pointer key, _ => by
    simp only [Work.poll]
    split <;> exact ⟨by simp [AllNotes, Event.note?], trivial⟩
  | _, _, .waiting due pointer key, _ => by
    simp only [Work.poll]
    split <;> exact ⟨by simp [AllNotes, Event.note?], trivial⟩
  | _, delays, .andThen first next, h => by
    obtain ⟨hevents, hrest⟩ := Work.notes_poll now delays first h.1
    simp only [Work.poll]
    split
    · rename_i a _
      obtain ⟨hmore, hlast⟩ := Work.notes_poll now delays (next a) (h.2 a)
      exact ⟨allNotes_append.2 ⟨hevents, hmore⟩, hlast⟩
    · exact ⟨hevents, trivial⟩
    · exact ⟨hevents, hrest, h.2⟩
  | _, delays, .all patient siblings, h => by
    obtain ⟨hevents, hrest⟩ := Siblings.notes_poll now delays patient true 0 siblings h
    simp only [Work.poll]
    split
    · exact ⟨hevents, trivial⟩
    · rename_i rest heq
      exact ⟨hevents, Siblings.notes_gather (hrest rest heq) patient⟩
theorem Siblings.notes_poll (now : Nat) : {α : Type} → (delays : Delays) → (patient clear : Bool) →
    (i : Nat) → (siblings : Siblings α) → siblings.Notes P →
    AllNotes P (siblings.poll contents now delays patient clear i).1 ∧
      ∀ rest, (siblings.poll contents now delays patient clear i).2 = .ok rest → rest.Notes P
  | _, _, _, _, _, .nil, _ => ⟨nofun, fun _ h => Except.ok.inj h ▸ trivial⟩
  | _, delays, patient, clear, i, .cons first rest, h => by
    obtain ⟨hevents, hfirst⟩ := Work.notes_poll now (delays.below i) first h.1
    obtain ⟨hmore, hrest⟩ := Siblings.notes_poll now delays patient
      (clear && (first.poll contents now (delays.below i)).2.succeeded) (i + 1) rest h.2
    refine ⟨?_, fun after hafter => ?_⟩
    · simp only [Siblings.poll]
      split
      · exact allNotes_under hevents
      · exact allNotes_append.2 ⟨allNotes_under hevents, hmore⟩
    · obtain ⟨rest', -, hr, rfl⟩ := Siblings.poll_cons_ok hafter
      exact ⟨hfirst, hrest rest' hr⟩
end

/-- Whatever stops a run, it notes nothing else. -/
theorem Work.notes_run {α : Type} (delays : Delays) (now : Nat) {work : Work α} (h : work.Notes P) :
    ∀ event ∈ (work.run contents delays now).events, ∀ note, event.2.2.note? = some note → P note := by
  induction hn : work.weight contents using Nat.strongRecOn generalizing work now with
  | ind n ih =>
    cases ho : work.outcome? with
    | some outcome =>
      rw [run_of_outcome contents delays now ho]
      exact nofun
    | none =>
      have hlt := weight_turn_lt contents delays now ho
      obtain ⟨hevents, hrest⟩ := Work.notes_poll (work.instant now) delays work h
      rw [run_of_pending contents delays now ho]
      rintro event hm note hnote
      rcases List.mem_append.1 hm with hm | hm
      · obtain ⟨event, he, rfl⟩ := List.mem_map.1 hm
        exact hevents event he note hnote
      · exact ih _ (hn ▸ hlt) (work.instant now) hrest rfl event hm note hnote

end

def Course.notes (course : Course) : List Note := course.happenings.filterMap fun event => event.2.2.note?

namespace Course

@[simp] theorem notes_append (left right : Course) : (left ++ right).notes = left.notes ++ right.notes := by
  rw [notes, happenings_append, List.filterMap_append]
  rfl

@[simp] theorem notes_under (i : Nat) (course : Course) : (course.under i).notes = course.notes := by
  induction course with
  | nil => rfl
  | cons o rest ih =>
    obtain ⟨time, position, act⟩ := o
    cases act with
    | event event => cases event <;> simp_all [notes, happenings, under, Occurrence.under, Occurrence.event?,
        Event.note?]
    | fault e => exact ih

@[simp] theorem notes_ending {α : Type} (now : Nat) (outcome : Except StorageError α) :
    (ending now outcome).notes = [] := by
  cases outcome <;> rfl

@[simp] theorem notes_notes (now : Nat) (noted : List Note) :
    notes (noted.map fun note => ⟨now, [], .event (.noted note)⟩) = noted := by
  induction noted with
  | nil => rfl
  | cons note rest ih => exact congrArg (note :: ·) ih

end Course

theorem Work.notes_run_of_faultless {α : Type} {contents : Contents} {delays : Delays} {now : Nat}
    {work : Work α} (hw : work.due? = none ∨ work.Blocked now)
    (h : (work.course contents delays now).Faultless) :
    ((work.run contents delays now).events.filterMap fun event => event.2.2.note?).Perm
      (work.course contents delays now).notes := by
  obtain ⟨hev, -⟩ := run_course contents delays now work hw (.inr h)
  have hf : (work.course contents delays now).inTime.fault? = none :=
    Course.fault?_eq_none_iff.2 fun o ho => h o ((Course.inTime_perm _).mem_iff.1 ho)
  rw [hev, Course.events_eq_happenings hf]
  exact ((Course.inTime_perm _).filterMap _).filterMap _

end StorageQuery
