import StorageQuery.Proofs.Answer.Trace
set_option autoImplicit false

namespace StorageQuery

section
variable (contents : Contents) (delays : Delays) (policy : WidePolicy)

theorem Evaluation.due?_field (root : Storage) (selector : Selector) :
    (field policy root selector).due? = none := by
  cases selector with
  | path path =>
    simp only [field, pathResult]
    split <;> rfl
  | keys name requests =>
    simp only [field]
    split
    · rfl
    · rfl
    · split <;> rfl

theorem Evaluation.due?_fields (root : Storage) (selectors : List Selector) :
    (fields policy root selectors).due? = none := by
  induction selectors with
  | nil => rfl
  | cons selector rest ih =>
    simp only [fields]
    split
    · exact ih
    · simp [Siblings.due?, ih, Work.map, Work.due?, due?_field]

theorem Evaluation.due?_level (root : Storage) (selectors : List Selector) :
    (level policy root selectors).due? = none :=
  due?_fields policy root selectors

theorem Evaluation.follows_level (root : Storage) (selectors : List Selector) :
    (level policy root selectors).Follows contents policy delays 0
      (root.sites contents delays selectors) :=
  Work.follows_all _ (follows_fields contents policy delays 0 root 0 selectors)

theorem Storage.laid_sites (root : Storage) (selectors : List Selector) :
    Site.Laid delays 0 (root.sites contents delays selectors) :=
  Site.laid_level contents delays 0 root 0 selectors

theorem Storage.lookUps_nodup (root : Storage) (selectors : List Selector) :
    ((root.lookUps contents delays selectors).map LookUp.position).Nodup := by
  rw [List.Nodup, List.pairwise_map, lookUps, List.pairwise_filterMap]
  refine (root.laid_sites contents delays selectors).ordered.imp fun hlt l hl l' hl' heq => ?_
  rw [← (Site.position_lookUp? hl).1, ← (Site.position_lookUp? hl').1, heq] at hlt
  exact List.lt_irrefl _ hlt

theorem Storage.lookUps_laid (root : Storage) (selectors : List Selector) {lookUp : LookUp}
    (h : lookUp ∈ root.lookUps contents delays selectors) :
    let around := LookUp.enclosing (root.lookUps contents delays selectors) lookUp.position
    lookUp.start = LookUp.last 0 around ∧ lookUp.start = LookUp.taken delays around ∧
      lookUp.finish = lookUp.start + lookUp.delay delays := by
  obtain ⟨site, hs, hl⟩ := List.mem_filterMap.1 h
  obtain ⟨hp, hstart, hfinish⟩ := Site.position_lookUp? hl
  have laid := root.laid_sites contents delays selectors
  have hwaits := laid.waits site hs
  have hsum := laid.start site hs
  have hend := laid.finish site hs
  rw [Site.last, Site.filterMap_enclosing] at hwaits
  rw [Site.taken, Site.filterMap_enclosing, Nat.zero_add] at hsum
  simp only [Site.delay, hl] at hend
  rw [hp, hstart, hfinish]
  exact ⟨hwaits, hsum, hend⟩

theorem Storage.events_render (root : Storage) :
    ∀ event ∈ (root.render policy).events, event.2.isNote = true := by
  intro event h
  have hw : event ∈ ((root.warnings policy).map Event.noted).map ((0 : Nat), ·) →
      event.2.isNote = true := fun h => by
    obtain ⟨_, hn, rfl⟩ := List.mem_map.1 h
    obtain ⟨note, -, rfl⟩ := List.mem_map.1 hn
    rfl
  unfold render Timeline.noteFailure at h
  split at h
  · exact hw h
  · rcases List.mem_append.1 h with h | h
    · exact hw h
    · obtain rfl := List.mem_singleton.1 h
      rfl

end

theorem Timeline.filter_quiet {α : Type} (run : Timeline (Position × Event) α) {p : Event → Bool}
    (h : ∀ event : Event, p event = true → event.isNote = false) :
    run.events.filter (fun event => p event.2.2) = run.quiet.filter fun event => p event.2.2 := by
  rw [quiet, List.filter_filter]
  refine List.filter_congr fun event _ => ?_
  cases hp : p event.2.2 <;> simp [h, hp]

theorem Event.isNote_of_isStart {event : Event} (h : event.isStart = true) : event.isNote = false := by
  cases event <;> simp_all [isStart, isNote]

theorem Event.isNote_of_isCompletion {event : Event} (h : event.isCompletion = true) :
    event.isNote = false := by
  cases event <;> simp_all [isCompletion, isNote]

/-- An answer that succeeds looks up what its selectors come to, each key once. Each look-up begins when
those around it are over, whatever its siblings do, takes its own time, and with the last the answer is
there. -/
theorem Storage.select_look_ups {contents : Contents} {delays : Delays} {policy : WidePolicy}
    {root : Storage} {selectors : List Selector} {answer : Answer}
    (h : (root.select contents delays policy selectors).outcome = .ok answer) :
    let run := root.select contents delays policy selectors
    let lookUps := root.lookUps contents delays selectors
    (run.events.filter fun event => event.2.2.isStart).Perm (lookUps.map LookUp.beginning) ∧
    (run.events.filter fun event => event.2.2.isCompletion).Perm (lookUps.map LookUp.ending) ∧
    (lookUps.map LookUp.position).Nodup ∧
    (∀ lookUp ∈ lookUps,
      lookUp.start = LookUp.last 0 (LookUp.enclosing lookUps lookUp.position) ∧
      lookUp.start = LookUp.taken delays (LookUp.enclosing lookUps lookUp.position) ∧
      lookUp.finish = lookUp.start + lookUp.delay delays) ∧
    run.finish = LookUp.last 0 lookUps ∧
    ∀ event ∈ (root.render policy).events, event.2.isNote = true := by
  intro run lookUps
  have hvalue := Work.outcome_run_eq_ok.1 h
  have hfaultless := (Work.faultless_course_iff contents delays 0 _).2 ⟨answer, hvalue⟩
  obtain ⟨hperm, -, hfinish⟩ := Work.run_of_faultless
    (.inl (Evaluation.due?_level policy root selectors)) hfaultless
  have hfollows := Evaluation.follows_level contents delays policy root selectors
  rw [hfollows.course, Site.happenings_flatMap] at hperm
  refine ⟨?_, ?_, root.lookUps_nodup contents delays selectors,
    fun lookUp hl => root.lookUps_laid contents delays selectors hl, hfinish.trans hfollows.finish,
    root.events_render policy⟩
  · rw [run.filter_quiet fun _ => Event.isNote_of_isStart, ← LookUp.filter_isStart]
    exact hperm.filter _
  · rw [run.filter_quiet fun _ => Event.isNote_of_isCompletion, ← LookUp.filter_isCompletion]
    exact hperm.filter _

/-- One key asked for twice, and a big map within the value found. -/
theorem Storage.select_look_ups_within :
    let inner : Storage := .object [("n", .bigMap ⟨"8", none⟩)]
    let contents : Contents := fun pointer _ => .ok (if pointer = "7" then some inner else some .null)
    let delays : Delays := fun position _ _ => if position = [0, 0] then 2 else 5
    let run := Storage.select contents delays .lossy (.object [("m", .bigMap ⟨"7", none⟩)])
      [.keys "m" [.within (.string "a") [.keys "n" [.whole (.string "b")]], .whole (.string "a")]]
    (run.events.filter fun event => event.2.2.isStart).Perm
        [(0, [0, 0], .started "7" (.string "a")), (2, [0, 0, 0, 0], .started "8" (.string "b")),
          (0, [0, 1], .started "7" (.string "a"))] ∧
      run.finish = 7 := by
  intro inner contents delays run
  have houtcome : run.outcome = .ok _ := Storage.outcome_select_eq_ok_iff.2 rfl
  have h := select_look_ups houtcome
  exact ⟨h.1, h.2.2.2.2.1⟩

end StorageQuery
