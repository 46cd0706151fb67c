import StorageQuery.Answer.Projector
import StorageQuery.Proofs.Answer.Encounter
import StorageQuery.Proofs.Answer.LookUps
import StorageQuery.Proofs.Storage.Wide
set_option autoImplicit false

namespace StorageQuery

namespace Storage

/-- The containers that selectors read keys of, each with the name of its field and the number of keys. -/
def entered (contents : Contents) (root : Storage) (selectors : List Selector) :
    List (String × Storage × Nat) :=
  (Encounter.level contents root selectors).filterMap fun
    | .entered field container keys => some (field, container, keys)
    | .shown _ => none

/-- The values that selectors show as plain documents. -/
def shown (contents : Contents) (root : Storage) (selectors : List Selector) : List Storage :=
  (Encounter.level contents root selectors).filterMap fun
    | .entered .. => none
    | .shown value => some value

end Storage

def Timeline.log {α : Type} (run : Timeline Recorded α) : List Note :=
  run.events.filterMap fun event => event.2.event.note?

/-- A failure is noted, once and as the last of all, with its message and the summary of the storage that was
asked. A success notes none. -/
structure Projector.LogsFailure {α : Type} (projector : Projector) (task : Task) (root : Storage)
    (run : Timeline Recorded α) : Prop where
  failed_iff : (∃ e, run.outcome = .error e) ↔ ∃ note ∈ run.log, note.level = .error
  last : ∀ e, run.outcome = .error e → ∃ before note,
    run.events = before ++ [(run.finish, ⟨[projector.span], .noted note⟩)] ∧
    note = .failed task root.summary e ∧
    note.fields = [("storage", .string root.summary), ("error", .string e.message)] ∧
    ∀ event ∈ before, ∀ other, event.2.event = .noted other → other.level ≠ .error
  spans : ∀ event ∈ run.events, event.2.spans = [projector.span]

section
variable {α : Type}

theorem Timeline.outcome_noteFailure (task : Task) (root : Storage) (run : Timeline Event α) :
    (run.noteFailure task root).outcome = run.outcome := by
  rw [noteFailure]
  split <;> rfl

theorem Timeline.noteFailure_of_ok {task : Task} {root : Storage} {run : Timeline Event α} {a : α}
    (h : run.outcome = .ok a) : run.noteFailure task root = run := by
  rw [noteFailure, h]

theorem Timeline.log_mapEvents (span : Span) (run : Timeline Event α) :
    (run.mapEvents fun event => (⟨[span], event⟩ : Recorded)).log =
      run.events.filterMap fun event => event.2.note? := by
  rw [log, mapEvents, List.filterMap_map]
  rfl

theorem Projector.logsFailure_noteFailure (projector : Projector) (task : Task) (root : Storage)
    {run : Timeline Event α}
    (hmild : ∀ event ∈ run.events, ∀ note, event.2.note? = some note → note.level ≠ .error) :
    projector.LogsFailure task root
      ((run.noteFailure task root).mapEvents fun event => ⟨[projector.span], event⟩) := by
  have hnone : ¬ ∃ note ∈ run.events.filterMap (fun event => event.2.note?), note.level = .error := by
    rintro ⟨note, hm, hlevel⟩
    obtain ⟨event, he, hnote⟩ := List.mem_filterMap.1 hm
    exact hmild event he note hnote hlevel
  have hspans : ∀ event ∈ ((run.noteFailure task root).mapEvents fun event =>
      (⟨[projector.span], event⟩ : Recorded)).events, event.2.spans = [projector.span] := by
    intro event hm
    obtain ⟨_, -, rfl⟩ := List.mem_map.1 hm
    rfl
  obtain ⟨events, finish, outcome⟩ := run
  cases outcome with
  | ok a =>
    refine ⟨iff_of_false nofun ?_, nofun, hspans⟩
    rw [Timeline.log_mapEvents]
    exact hnone
  | error e =>
    refine ⟨iff_of_true ⟨e, rfl⟩ ⟨.failed task root.summary e, ?_, rfl⟩, fun e' he => ?_, hspans⟩
    · rw [Timeline.log_mapEvents]
      simp [Timeline.noteFailure, Event.note?]
    · cases he
      refine ⟨events.map fun event => (event.1, ⟨[projector.span], event.2⟩), .failed task root.summary e,
        by simp [Timeline.noteFailure, Timeline.mapEvents], rfl, rfl, fun event hm note hnote => ?_⟩
      obtain ⟨event, he, rfl⟩ := List.mem_map.1 hm
      exact hmild event he note (Event.note?_eq_some.2 hnote)

end

section
variable (policy : WidePolicy)

theorem Storage.filter_debug_warnings (value : Storage) :
    (value.warnings policy).filter (fun note => decide (note.level = .debug)) = [] :=
  List.filter_eq_nil_iff.2 fun _ hm => by
    rw [level_of_mem_warnings hm]
    nofun

theorem Storage.filter_warn_warnings (value : Storage) :
    (value.warnings policy).filter (fun note => decide (note.level = .warn)) = value.warnings policy :=
  List.filter_eq_self.2 fun _ hm => decide_eq_true (level_of_mem_warnings hm)

theorem Encounter.debug_notes (contents : Contents) (root : Storage) (selectors : List Selector) :
    ((level contents root selectors).flatMap (notes policy)).filter
        (fun note => decide (note.level = .debug)) =
      (root.entered contents selectors).map fun (field, container, keys) =>
        .readingKeys field container.kind keys := by
  rw [Storage.entered]
  induction level contents root selectors with
  | nil => rfl
  | cons encounter rest ih =>
    cases encounter with
    | entered field container keys =>
      rw [List.flatMap_cons, List.filter_append, ih]
      rfl
    | shown value =>
      rw [List.flatMap_cons, List.filter_append, ih, notes, Storage.filter_debug_warnings]
      rfl

theorem Encounter.warn_notes (contents : Contents) (root : Storage) (selectors : List Selector) :
    ((level contents root selectors).flatMap (notes policy)).filter
        (fun note => decide (note.level = .warn)) =
      (root.shown contents selectors).flatMap fun value => value.warnings policy := by
  rw [Storage.shown]
  induction level contents root selectors with
  | nil => rfl
  | cons encounter rest ih =>
    cases encounter with
    | entered field container keys =>
      rw [List.flatMap_cons, List.filter_append, ih]
      rfl
    | shown value =>
      rw [List.flatMap_cons, List.filter_append, ih, notes, Storage.filter_warn_warnings]
      rfl

end

theorem Storage.flatMap_warnings (policy : WidePolicy) (values : List Storage) :
    (values.flatMap fun value => value.warnings policy) =
      if policy = .lossy then values.flatMap fun value => value.wide.map .precisionLost else [] := by
  split
  · rename_i h
    simp only [warnings, if_pos h]
  · rename_i h
    simp [warnings, h]

theorem Storage.mild_select (contents : Contents) (delays : Delays) (policy : WidePolicy) (root : Storage)
    (selectors : List Selector) :
    ∀ event ∈ ((root.select contents delays policy selectors).mapEvents Prod.snd).events, ∀ note,
      event.2.note? = some note → note.level ≠ .error := by
  intro event hm note hnote
  obtain ⟨event, he, rfl⟩ := List.mem_map.1 hm
  have hmild : (Evaluation.level policy root selectors).Notes fun note => note.level ≠ .error :=
    Evaluation.mild_fields policy root selectors
  exact Work.notes_run delays 0 hmild event he note hnote

theorem Storage.notes_select {contents : Contents} {delays : Delays} {policy : WidePolicy} {root : Storage}
    {selectors : List Selector} {answer : Answer}
    (h : (root.select contents delays policy selectors).outcome = .ok answer) :
    ((root.select contents delays policy selectors).events.filterMap fun event => event.2.2.note?).Perm
      ((Encounter.level contents root selectors).flatMap (Encounter.notes policy)) := by
  have hvalue := Work.outcome_run_eq_ok.1 h
  have hfaultless := (Work.faultless_course_iff contents delays 0 _).2 ⟨answer, hvalue⟩
  rw [← Evaluation.notes_course_fields contents policy delays 0 0 root selectors]
  exact Work.notes_run_of_faultless (.inl (Evaluation.due?_level policy root selectors)) hfaultless

theorem Projector.outcome_project (projector : Projector) (contents : Contents) (delays : Delays)
    (root : Storage) (selectors : List Selector) :
    (projector.project contents delays root selectors).outcome =
      (root.select contents delays projector.policy selectors).outcome := by
  rw [project_eq]
  exact Timeline.outcome_noteFailure ..

theorem Projector.log_project {projector : Projector} {contents : Contents} {delays : Delays}
    {root : Storage} {selectors : List Selector} {answer : Answer}
    (h : (projector.project contents delays root selectors).outcome = .ok answer) :
    (projector.project contents delays root selectors).log.Perm
      ((Encounter.level contents root selectors).flatMap (Encounter.notes projector.policy)) := by
  rw [outcome_project] at h
  have hnotes := Storage.notes_select h
  rw [project_eq, Timeline.log_mapEvents, Timeline.noteFailure_of_ok h, Timeline.mapEvents,
    List.filterMap_map]
  exact hnotes

theorem Projector.log_render (projector : Projector) (root : Storage) :
    (projector.render root).log = root.warnings projector.policy ++
      match root.toPlain projector.policy with
      | .ok _ => []
      | .error e => [.failed .render root.summary e] := by
  rw [render_eq, Timeline.log_mapEvents, Storage.render, Timeline.noteFailure]
  cases hplain : root.toPlain projector.policy <;> simp [Timeline.atOnce, Event.note?]

/-- What a projector logs, whatever it is asked, and whenever and wherever that fails. A success tells of each
container that keys are read of, once, and of each integer too wide for the policy to show in full, once for
each place in each value shown; so does rendering, in the order of the document. -/
theorem Projector.log_of_runs (projector : Projector) (root : Storage) :
    (∀ (contents : Contents) (delays : Delays) (selectors : List Selector),
      let run := projector.project contents delays root selectors
      projector.LogsFailure (.select selectors) root run ∧
        ∀ answer, run.outcome = .ok answer →
          (run.log.filter fun note => decide (note.level = .debug)).Perm
            ((root.entered contents selectors).map fun (field, container, keys) =>
              .readingKeys field container.kind keys) ∧
          (run.log.filter fun note => decide (note.level = .warn)).Perm
            (if projector.policy = .lossy then
              (root.shown contents selectors).flatMap fun value => value.wide.map .precisionLost
            else [])) ∧
    projector.LogsFailure .render root (projector.render root) ∧
    ((projector.render root).log.filter fun note => decide (note.level = .warn)) =
      (if projector.policy = .lossy then root.wide.map .precisionLost else []) ∧
    ∀ value : Storage, ∃ all, value.wides.Listed all ∧ value.wide = all.map Prod.snd := by
  refine ⟨fun contents delays selectors => ⟨?_, fun answer hanswer => ?_⟩, ?_, ?_, Storage.listed_wide⟩
  · rw [project_eq]
    exact projector.logsFailure_noteFailure (.select selectors) root
      (Storage.mild_select contents delays projector.policy root selectors)
  · have hperm := log_project hanswer
    rw [← Encounter.debug_notes projector.policy, ← Storage.flatMap_warnings, ← Encounter.warn_notes]
    exact ⟨hperm.filter _, hperm.filter _⟩
  · rw [render_eq, Storage.render]
    refine projector.logsFailure_noteFailure .render root fun event hm note hnote => ?_
    obtain ⟨_, hnoted, rfl⟩ := List.mem_map.1 hm
    obtain ⟨warning, hwarning, rfl⟩ := List.mem_map.1 hnoted
    cases hnote
    exact Evaluation.mild_warnings projector.policy root _ hwarning
  · rw [log_render, List.filter_append, Storage.filter_warn_warnings]
    cases root.toPlain projector.policy <;> exact List.append_nil _

/-- A container within a value found, beside an integer that the lossy policy rounds and the strict one refuses. -/
theorem Projector.log_of_runs_nested :
    let inner : Storage := .object [("n", .bigInt 100000000000000000000), ("k", .map [])]
    let root : Storage := .object [("m", .bigMap ⟨"7", none⟩)]
    let contents : Contents := fun _ _ => .ok (some inner)
    let delays : Delays := fun _ _ _ => 5
    let selectors : List Selector := [.keys "m" [.within (.string "a") [.path ⟨"n"⟩, .keys "k" []]]]
    let lossy := (Projector.mk .lossy ⟨"request"⟩).project contents delays root selectors
    let strict := (Projector.mk .strict ⟨"request"⟩).project contents delays root selectors
    (lossy.log.filter fun note => decide (note.level = .debug)).Perm
        [.readingKeys "m" "big_map" 1, .readingKeys "k" "map" 0] ∧
      (lossy.log.filter fun note => decide (note.level = .warn)).Perm
        [.precisionLost 100000000000000000000] ∧
      ∃ before e, strict.events =
        before ++ [(strict.finish, ⟨[⟨"request"⟩], .noted (.failed (.select selectors) "object \x7bm\x7d" e)⟩)] := by
  intro inner root contents delays selectors lossy strict
  obtain ⟨hproject, -⟩ := log_of_runs ⟨.lossy, ⟨"request"⟩⟩ root
  obtain ⟨-, hok⟩ := hproject contents delays selectors
  have houtcome : lossy.outcome = .ok _ := (outcome_project ..).trans (Storage.outcome_select_eq_ok_iff.2 rfl)
  obtain ⟨hdebug, hwarn⟩ := hok _ houtcome
  obtain ⟨hproject', -⟩ := log_of_runs ⟨.strict, ⟨"request"⟩⟩ root
  obtain ⟨hfailure, -⟩ := hproject' contents delays selectors
  have hfails : ∃ e, strict.outcome = .error e := by
    rw [outcome_project, Storage.outcome_select_isError_iff]
    exact ⟨_, rfl⟩
  obtain ⟨e, he⟩ := hfails
  obtain ⟨before, note, hevents, rfl, -⟩ := hfailure.last e he
  exact ⟨hdebug, hwarn, before, e, hevents⟩

end StorageQuery
