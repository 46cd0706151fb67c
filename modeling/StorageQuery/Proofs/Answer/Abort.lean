import StorageQuery.Proofs.Answer.LookUps
/-!
How an answer fails. If no selector and no key has too many siblings, the first failure ends it at once: the
least by time and position among all that would happen. What has begun by then is what is not after it.
-/

set_option autoImplicit false

namespace StorageQuery

mutual
/-- No list of siblings within the selector is a crowd. -/
def Selector.Narrow : Selector → Prop
  | .path _ => True
  | .keys _ requests => requests.length ≤ 30 ∧ Request.AllNarrow requests
def Selector.AllNarrow : List Selector → Prop
  | [] => True
  | selector :: rest => selector.Narrow ∧ Selector.AllNarrow rest
def Request.Narrow : Request → Prop
  | .whole _ => True
  | .within _ selectors => selectors.length ≤ 30 ∧ Selector.AllNarrow selectors
def Request.AllNarrow : List Request → Prop
  | [] => True
  | request :: rest => request.Narrow ∧ Request.AllNarrow rest
end

namespace Evaluation

variable (policy : WidePolicy)

theorem isCrowd_of_le {count : Nat} (h : count ≤ 30) : isCrowd count = false := by
  simp [isCrowd, h]

theorem eager_map {α β : Type} (f : α → β) {work : Work α} (h : work.Eager) : (work.map f).Eager :=
  ⟨h, fun _ => trivial⟩

theorem eager_plain (found : Storage) : (plain policy found).Eager :=
  ⟨trivial, fun _ => trivial⟩

theorem eager_lookup (container : Storage) (key : Key) : (lookup container key).Eager := by
  cases container <;> trivial

mutual
theorem eager_fields (root : Storage) : (selectors : List Selector) →
    Selector.AllNarrow selectors → (fields policy root selectors).Eager
  | [], _ => trivial
  | selector :: rest, h => by
    rw [fields]
    split
    · exact eager_fields root rest h.2
    · exact ⟨eager_map _ (eager_field root selector h.1), eager_fields root rest h.2⟩
theorem eager_field (root : Storage) : (selector : Selector) →
    selector.Narrow → (field policy root selector).Eager
  | .path path, _ => by
    simp only [field, pathResult]
    split
    · trivial
    · trivial
    · exact eager_map _ (eager_plain policy _)
  | .keys name requests, h => by
    simp only [field]
    split
    · trivial
    · trivial
    · rename_i value _ _
      split
      · exact ⟨trivial, fun _ => eager_map _ ⟨isCrowd_of_le h.1, eager_rows value requests h.2⟩⟩
      · trivial
theorem eager_rows (container : Storage) : (requests : List Request) →
    Request.AllNarrow requests → (rows policy container requests).Eager
  | [], _ => trivial
  | request :: rest, h =>
    ⟨eager_map _ (eager_row container request h.1), eager_rows container rest h.2⟩
theorem eager_row (container : Storage) : (request : Request) →
    request.Narrow → (row policy container request).Eager
  | .whole key, _ => by
    refine ⟨eager_lookup container key, fun found => ?_⟩
    cases found with
    | none => trivial
    | some found => exact eager_map _ (eager_plain policy found)
  | .within key selectors, h => by
    refine ⟨eager_lookup container key, fun found => ?_⟩
    cases found with
    | none => trivial
    | some found => exact eager_map _ ⟨isCrowd_of_le h.1, eager_fields found selectors h.2⟩
end

end Evaluation

def Failure.moment (failure : Failure) : Nat × Position := (failure.time, failure.position)

def LookUp.moment (lookUp : LookUp) : Nat × Position := (lookUp.start, lookUp.position)

theorem LookUp.filter_moment (p : Nat × Position → Bool) (lookUps : List LookUp) :
    ((lookUps.flatMap fun lookUp => [lookUp.beginning, lookUp.ending]).filter
        fun event => p (event.1, event.2.1)).filter (fun event => event.2.2.isStart) =
      (lookUps.filter fun lookUp => p lookUp.moment).map beginning := by
  rw [List.filter_comm, filter_isStart, List.filter_map]
  rfl

theorem Course.faultless_quiet_iff {course : Course} : course.quiet.Faultless ↔ course.Faultless := by
  rw [← fault?_eq_none_iff, fault?_quiet, fault?_eq_none_iff]

/-- Something in the course of an answer fails just when one of its sites does. -/
theorem Storage.faultless_iff_failures (contents : Contents) (delays : Delays) (policy : WidePolicy)
    (root : Storage) (selectors : List Selector) :
    ((Evaluation.level policy root selectors).course contents delays 0).Faultless ↔
      root.failures contents delays policy selectors = [] := by
  have hfollows := Evaluation.follows_level contents delays policy root selectors
  rw [← Course.faultless_quiet_iff, hfollows.course, List.eq_nil_iff_forall_not_mem]
  constructor
  · intro h failure hf
    have hmem := (Site.fault_mem_flatMap_iff contents policy).2 hf
    simpa [Occurrence.isFault] using h _ hmem
  · rintro h ⟨time, position, act⟩ ho
    cases act with
    | event event => rfl
    | fault e => exact absurd ((Site.fault_mem_flatMap_iff contents policy).1 ho) (h _)

/-- Unless nothing fails, an answer ends with the least of all failures that would happen, at its moment.
The look-ups that have begun are those that would begin at a moment not after it. -/
theorem Storage.select_first_failure (contents : Contents) (delays : Delays) (policy : WidePolicy)
    (root : Storage) (selectors : List Selector) (hlength : selectors.length ≤ 30)
    (hnarrow : Selector.AllNarrow selectors) :
    let run := root.select contents delays policy selectors
    let lookUps := root.lookUps contents delays selectors
    let failures := root.failures contents delays policy selectors
    (∀ site ∈ root.sites contents delays selectors,
      site.start = LookUp.taken delays (LookUp.enclosing lookUps site.position) ∧
      site.finish = site.start + site.delay delays) ∧
    (failures = [] ∧ (∃ answer, run.outcome = .ok answer) ∨
      ∃ first ∈ failures,
        (∀ failure ∈ failures, failure = first ∨ Precedes first.moment failure.moment) ∧
        run.outcome = .error first.error ∧ run.finish = first.time ∧
        (run.events.filter fun event => event.2.2.isStart).Perm
          ((lookUps.filter fun lookUp => !decide (Precedes first.moment lookUp.moment)).map
            LookUp.beginning)) := by
  intro run lookUps failures
  have laid := root.laid_sites contents delays selectors
  have hdue := Evaluation.due?_level policy root selectors
  have hfollows := Evaluation.follows_level contents delays policy root selectors
  refine ⟨fun site hs => ⟨?_, laid.finish site hs⟩, ?_⟩
  · have hsum := laid.start site hs
    rwa [Site.taken, Site.filterMap_enclosing, Nat.zero_add] at hsum
  by_cases hf : ((Evaluation.level policy root selectors).course contents delays 0).Faultless
  · obtain ⟨-, houtcome, -⟩ := Work.run_of_faultless (.inl hdue) hf
    obtain ⟨answer, hvalue⟩ := (Work.faultless_course_iff contents delays 0 _).1 hf
    exact .inl ⟨(root.faultless_iff_failures contents delays policy selectors).1 hf, answer,
      houtcome.trans hvalue⟩
  · have heager : (Evaluation.level policy root selectors).Eager :=
      ⟨Evaluation.isCrowd_of_le hlength, Evaluation.eager_fields policy root selectors hnarrow⟩
    have habove := Site.flatMap_pairwise contents policy laid.ordered
    rw [← hfollows.course] at habove
    have hrun := Work.run_of_fault (.inl hdue) heager habove hf
    -- from the course to the sites: its failures are theirs, its events those of their look-ups
    rw [hfollows.course] at hrun
    obtain ⟨time, position, e, hmem, hleast, houtcome, hfinish, hperm⟩ := hrun
    refine .inr ⟨⟨position, time, e⟩, (Site.fault_mem_flatMap_iff contents policy).1 hmem,
      fun failure hfailure => ?_, houtcome, hfinish, ?_⟩
    · rcases hleast _ ((Site.fault_mem_flatMap_iff contents policy).2 hfailure) rfl with heq | hlater
      · obtain ⟨position', time', e'⟩ := failure
        cases heq
        exact .inl rfl
      · exact .inr hlater
    · rw [Course.happenings_filter fun moment => !decide (Precedes (time, position) moment),
        Site.happenings_flatMap] at hperm
      have hperm := hperm.filter fun event => event.2.2.isStart
      rw [LookUp.filter_moment fun moment => !decide (Precedes (time, position) moment)] at hperm
      rw [run.filter_quiet fun _ => Event.isNote_of_isStart]
      exact hperm

/-- The later sibling fails first. -/
theorem Storage.select_first_failure_later_sibling :
    let contents : Contents := fun _ key => .error (.transport key.canonical)
    let delays : Delays := fun position _ _ => if position = [0, 0] then 5 else 3
    let run := Storage.select contents delays .lossy (.object [("m", .bigMap ⟨"7", none⟩)])
      [.keys "m" [.whole (.string "a"), .whole (.string "b")]]
    run.outcome = .error (.transport "b") ∧ run.finish = 3 := by
  intro contents delays run
  obtain ⟨-, h⟩ := select_first_failure contents delays .lossy (.object [("m", .bigMap ⟨"7", none⟩)])
    [.keys "m" [.whole (.string "a"), .whole (.string "b")]] (by decide)
    (by simp [Selector.AllNarrow, Selector.Narrow, Request.AllNarrow, Request.Narrow])
  rcases h with ⟨hnil, -⟩ | ⟨first, hmem, hleast, houtcome, hfinish, -⟩
  · nomatch hnil
  · let early : Failure := ⟨[0, 1], 3, .transport "b"⟩
    have hmem : first ∈ [⟨[0, 0], 5, .transport "a"⟩, early] := hmem
    simp only [List.mem_cons, List.not_mem_nil, or_false] at hmem
    rcases hmem with rfl | rfl
    · rcases hleast early (.tail _ (.head _)) with heq | hlater
      · exact absurd (congrArg Failure.time heq) (by decide)
      · exact absurd hlater (by decide)
    · exact ⟨houtcome, hfinish⟩

end StorageQuery
