import StorageQuery.Proofs.Answer.Schedule
import StorageQuery.Proofs.Work.Order
/-!
An evaluation against its sites: it does what they do, one after the other, and is done with the last of
them. What goes to the log is left aside.
-/

set_option autoImplicit false

namespace StorageQuery

namespace Site

theorem course_under (contents : Contents) (policy : WidePolicy) (i : Nat) (site : Site) :
    (site.under i).course contents policy = Course.under i (site.course contents policy) := by
  obtain ⟨position, start, finish, asked⟩ := site
  simp only [course, Course.under, List.map_append]
  congr 1
  · cases asked with
    | value value => rfl
    | key container request => cases container <;> rfl
  · simp only [failure?, under]
    cases error? contents policy asked <;> rfl

theorem flatMap_under (contents : Contents) (policy : WidePolicy) (i : Nat) (sites : List Site) :
    (sites.map (under i)).flatMap (course contents policy) =
      Course.under i (sites.flatMap (course contents policy)) := by
  induction sites with
  | nil => rfl
  | cons site rest ih =>
    simp only [List.map_cons, List.flatMap_cons, ih, course_under, Course.under, List.map_append]

theorem course_value (contents : Contents) (policy : WidePolicy) (now : Nat) (value : Storage) :
    course contents policy ⟨[], now, now, .value value⟩ =
      Course.ending now (value.toPlain policy) := by
  cases h : value.toPlain policy <;>
    simp [course, lookUp?, failure?, error?, refusal?, Course.ending, Failure.occurrence, h]

theorem course_key (contents : Contents) (policy : WidePolicy) (start finish : Nat)
    (container : Storage) (request : Request) :
    course contents policy ⟨[], start, finish, .key container request⟩ =
      (lookUp? ⟨[], start, finish, .key container request⟩).elim [] LookUp.course ++
        (Course.ending finish (container.find contents request.key) ++
          Course.onSuccess (container.find contents request.key) fun
            | none => []
            | some found =>
              match request with
              | .whole _ => Course.ending finish (found.toPlain policy)
              | .within _ _ => []) := by
  rw [course]
  congr 1
  rcases h : container.find contents request.key with e | found | found
  · simp [failure?, error?, h, Course.ending, Course.onSuccess, Failure.occurrence]
  · simp [failure?, error?, h, Course.ending, Course.onSuccess]
  · cases request with
    | whole key =>
      cases hp : found.toPlain policy <;>
        simp [failure?, error?, refusal?, h, hp, Course.ending, Course.onSuccess, Failure.occurrence]
    | within key selectors => simp [failure?, error?, h, Course.ending, Course.onSuccess]

end Site

section
variable {α : Type} (contents : Contents) (policy : WidePolicy) (delays : Delays) (now : Nat)

structure Work.Follows (work : Work α) (sites : List Site) : Prop where
  course : (work.course contents delays now).quiet = sites.flatMap (Site.course contents policy)
  finish : work.finish contents delays now = Site.last now sites

structure Siblings.Follows (i : Nat) (siblings : Siblings α) (sites : List Site) : Prop where
  course : (siblings.course contents delays now i).quiet = sites.flatMap (Site.course contents policy)
  finish : siblings.finish contents delays now i = Site.last now sites

end

section
variable {α β : Type} {contents : Contents} {policy : WidePolicy} {delays : Delays} {now i : Nat}
variable {sites more : List Site}

theorem Work.follows_ended (a : α) : (Work.ended (.ok a)).Follows contents policy delays now [] :=
  ⟨rfl, rfl⟩

theorem Work.follows_map (f : α → β) {work : Work α} (h : work.Follows contents policy delays now sites) :
    (work.map f).Follows contents policy delays now sites := by
  have hc : (work.map f).course contents delays now = work.course contents delays now := by
    simp only [map, Work.course]
    cases work.value contents <;> simp [Course.onSuccess, Course.ending]
  have hf : (work.map f).finish contents delays now = work.finish contents delays now := by
    simp only [map, Work.finish]
    cases work.value contents <;> rfl
  exact ⟨hc ▸ h.course, hf ▸ h.finish⟩

theorem Work.follows_note (notes : List Note) {work : Work α}
    (h : work.Follows contents policy delays now sites) :
    ((Work.note notes).andThen fun _ => work).Follows contents policy delays now sites := by
  refine ⟨?_, h.finish⟩
  simpa [Work.course, Course.onSuccess, Work.value, Work.finish] using h.course

theorem Work.follows_all (patient : Bool) {siblings : Siblings α}
    (h : siblings.Follows contents policy delays now 0 sites) :
    (Work.all patient siblings).Follows contents policy delays now sites :=
  ⟨h.course, h.finish⟩

theorem Siblings.follows_cons {first : Work α} {rest : Siblings α}
    (hf : first.Follows contents policy (delays.below i) now sites)
    (hr : rest.Follows contents policy delays now (i + 1) more) :
    (Siblings.cons first rest).Follows contents policy delays now i
      (sites.map (Site.under i) ++ more) := by
  constructor
  · rw [Siblings.course, Course.quiet_append, Course.quiet_under, hf.course, hr.course,
      List.flatMap_append, Site.flatMap_under]
  · rw [Siblings.finish, hf.finish, hr.finish, Site.last_append, Site.last_under]

end

namespace Evaluation

section
variable (contents : Contents) (policy : WidePolicy) (delays : Delays) (now : Nat)

theorem follows_plain (value : Storage) :
    (plain policy value).Follows contents policy delays now [⟨[], now, now, .value value⟩] := by
  refine ⟨?_, rfl⟩
  simp [plain, Work.course, Course.onSuccess, Work.value, Work.finish, Site.course_value]

theorem follows_pathResult (root : Storage) (path : Path) :
    (pathResult policy root path).Follows contents policy delays now
      (Site.field contents delays now root (.path path)) := by
  simp only [pathResult, Site.field]
  cases root.get? path with
  | none => exact Work.follows_ended _
  | some value =>
    cases value with
    | null => exact ⟨rfl, rfl⟩
    | _ => exact Work.follows_map _ (follows_plain contents policy delays now _)

theorem finish_lookup (container : Storage) (key : Key) :
    (lookup container key).finish contents delays now = Site.lookedUp delays now container key := by
  cases container <;> rfl

theorem quiet_course_lookup (container : Storage) (request : Request) :
    ((lookup container request.key).course contents delays now).quiet =
      (Site.lookUp? ⟨[], now, Site.lookedUp delays now container request.key,
          .key container request⟩).elim [] LookUp.course ++
        Course.ending (Site.lookedUp delays now container request.key)
          (container.find contents request.key) := by
  cases container with
  | bigMap handle =>
    cases h : contents handle.pointer request.key <;>
      simp [lookup, Work.course, Course.ending, Course.quiet, Occurrence.isNote, Event.isNote,
        Site.lookUp?, LookUp.course, Site.lookedUp, Storage.find, h]
  | _ => rfl

theorem follows_whole (container : Storage) (key : Key) :
    (row policy container (.whole key)).Follows contents policy delays now
      (Site.row contents delays now container (.whole key)) := by
  have hl := quiet_course_lookup contents delays now container (.whole key)
  have hd := Site.last_key delays now container (.whole key)
  have hp (found : Storage) := Work.follows_map RowResult.value
    (follows_plain contents policy delays (Site.lookedUp delays now container key) found)
  simp only [Request.key] at hl hd
  constructor
  · simp only [row, Site.row, List.flatMap_singleton, Site.course_key, Request.key, Work.course,
      Course.quiet_append, hl, List.append_assoc, value_lookup, finish_lookup]
    rcases container.find contents key with e | found | found
    · simp [Course.onSuccess, Course.quiet]
    · simp [Course.onSuccess, Course.ending, Work.course]
    · simp [Course.onSuccess, (hp found).course, Site.course_value]
  · simp only [row, Site.row, Work.finish, value_lookup, finish_lookup, hd]
    rcases container.find contents key with e | found | found
    · rfl
    · rfl
    · exact (hp found).finish

theorem follows_within (container : Storage) (key : Key) (selectors : List Selector)
    (h : ∀ found, (fields policy found selectors).Follows contents policy delays
      (Site.lookedUp delays now container key) 0
      (Site.level contents delays (Site.lookedUp delays now container key) found 0 selectors)) :
    (row policy container (.within key selectors)).Follows contents policy delays now
      (Site.row contents delays now container (.within key selectors)) := by
  have hl := quiet_course_lookup contents delays now container (.within key selectors)
  have hd := Site.last_key delays now container (.within key selectors)
  have hle := Site.le_lookedUp delays now container key
  have hf (found : Storage) := Work.follows_map RowResult.nested
    (Work.follows_all (isCrowd selectors.length) (h found))
  simp only [Request.key] at hl hd
  constructor
  · simp only [row, Site.row, List.flatMap_cons, Site.course_key, Request.key, Work.course,
      Course.quiet_append, hl, List.append_assoc, value_lookup, finish_lookup]
    rcases container.find contents key with e | found | found
    · simp [Course.onSuccess, Course.quiet]
    · simp [Course.onSuccess, Course.ending, Work.course]
    · simp [Course.onSuccess, (hf found).course]
  · simp only [row, Site.row, Work.finish, value_lookup, finish_lookup]
    rw [← List.singleton_append, Site.last_append, hd]
    rcases container.find contents key with e | found | found
    · exact (Nat.max_eq_left hle).symm
    · exact (Nat.max_eq_left hle).symm
    · exact (hf found).finish.trans (LookUp.last_of_le hle _)

end

section
variable (contents : Contents) (policy : WidePolicy)

mutual
theorem follows_fields (delays : Delays) (now : Nat) (root : Storage) (i : Nat) :
    (selectors : List Selector) → (fields policy root selectors).Follows contents policy delays now i
      (Site.level contents delays now root i selectors)
  | [] => ⟨rfl, rfl⟩
  | selector :: rest => by
    rw [fields, Site.level]
    split
    · exact follows_fields delays now root i rest
    · exact Siblings.follows_cons
        (Work.follows_map _ (follows_field (delays.below i) now root selector))
        (follows_fields delays now root (i + 1) rest)
theorem follows_field (delays : Delays) (now : Nat) (root : Storage) :
    (selector : Selector) → (field policy root selector).Follows contents policy delays now
      (Site.field contents delays now root selector)
  | .path path => follows_pathResult contents policy delays now root path
  | .keys name requests => by
    simp only [field, Site.field]
    cases root.field? name with
    | none => exact Work.follows_ended _
    | some value =>
      have hr := Work.follows_map FieldResult.rows
        (Work.follows_all (isCrowd requests.length) (follows_rows delays now value 0 requests))
      cases value with
      | map entries => exact Work.follows_note _ hr
      | bigMap handle => exact Work.follows_note _ hr
      | _ => exact Work.follows_ended _
theorem follows_rows (delays : Delays) (now : Nat) (container : Storage) (i : Nat) :
    (requests : List Request) → (rows policy container requests).Follows contents policy delays now i
      (Site.rows contents delays now container i requests)
  | [] => ⟨rfl, rfl⟩
  | request :: rest =>
    Siblings.follows_cons (Work.follows_map _ (follows_row (delays.below i) now container request))
      (follows_rows delays now container (i + 1) rest)
theorem follows_row (delays : Delays) (now : Nat) (container : Storage) :
    (request : Request) → (row policy container request).Follows contents policy delays now
      (Site.row contents delays now container request)
  | .whole key => follows_whole contents policy delays now container key
  | .within key selectors =>
    follows_within contents policy delays now container key selectors fun found =>
      follows_fields delays (Site.lookedUp delays now container key) found 0 selectors
end

end

end Evaluation

def Event.isStart : Event → Bool
  | .started _ _ => true
  | _ => false

def Event.isCompletion : Event → Bool
  | .completed _ _ => true
  | _ => false

section
variable (contents : Contents) (policy : WidePolicy)

theorem Site.mem_course {site : Site} {o : Occurrence} (h : o ∈ site.course contents policy) :
    o.position = site.position ∧
      (o.isFault = true → ∃ failure, site.failure? contents policy = some failure ∧
        o = failure.occurrence) := by
  rcases List.mem_append.1 h with h | h
  · cases hl : site.lookUp? with
    | none => simp [hl] at h
    | some lookUp =>
      obtain ⟨hp, -⟩ := position_lookUp? hl
      simp only [hl, Option.elim, LookUp.course, List.mem_cons, List.not_mem_nil, or_false] at h
      rcases h with rfl | rfl <;> exact ⟨hp, by simp [Occurrence.isFault]⟩
  · obtain ⟨failure, hf, rfl⟩ := List.mem_map.1 h
    have hf := Option.mem_toList.1 hf
    refine ⟨?_, fun _ => ⟨failure, hf, rfl⟩⟩
    obtain ⟨e, -, rfl⟩ := Option.map_eq_some_iff.1 hf
    rfl

theorem Site.course_pairwise (site : Site) :
    (site.course contents policy).Pairwise Occurrence.Above := by
  have hp : ∀ o ∈ site.course contents policy, o.position = site.position := fun o ho =>
    (mem_course contents policy ho).1
  revert hp
  unfold course
  cases site.lookUp? <;> cases site.failure? contents policy <;>
    simp_all [LookUp.course, Occurrence.Above, Occurrence.isFault, Failure.occurrence]

theorem Site.flatMap_pairwise {sites : List Site}
    (h : sites.Pairwise fun a b => a.position < b.position) :
    (sites.flatMap (Site.course contents policy)).Pairwise Occurrence.Above := by
  refine List.pairwise_flatMap.2 ⟨fun site _ => course_pairwise contents policy site, ?_⟩
  refine h.imp fun hlt o ho o' ho' => .inl ?_
  rw [(mem_course contents policy ho).1, (mem_course contents policy ho').1]
  exact hlt

theorem Site.fault_mem_flatMap_iff {sites : List Site} {time : Nat} {position : Position}
    {e : StorageError} :
    ⟨time, position, .fault e⟩ ∈ sites.flatMap (Site.course contents policy) ↔
      ⟨position, time, e⟩ ∈ sites.filterMap (failure? contents policy) := by
  rw [List.mem_flatMap, List.mem_filterMap]
  refine exists_congr fun site => and_congr_right fun _ => ⟨fun h => ?_, fun h => ?_⟩
  · obtain ⟨⟨p, t, e'⟩, hf, ho⟩ := (mem_course contents policy h).2 rfl
    cases ho
    exact hf
  · exact List.mem_append_right _ (by simp [h, Failure.occurrence])

theorem Site.happenings_flatMap (sites : List Site) :
    Course.happenings (sites.flatMap (Site.course contents policy)) =
      (sites.filterMap lookUp?).flatMap fun lookUp => [lookUp.beginning, lookUp.ending] := by
  induction sites with
  | nil => rfl
  | cons site rest ih =>
    have hsite : (site.course contents policy).happenings =
        site.lookUp?.toList.flatMap fun lookUp => [lookUp.beginning, lookUp.ending] := by
      unfold course
      cases site.lookUp? <;> cases site.failure? contents policy <;> rfl
    rw [List.flatMap_cons, Course.happenings_append, hsite, ih]
    cases h : site.lookUp? <;> simp [h]

theorem LookUp.filter_isStart (lookUps : List LookUp) :
    (lookUps.flatMap fun lookUp => [lookUp.beginning, lookUp.ending]).filter
      (fun event => event.2.2.isStart) = lookUps.map beginning := by
  induction lookUps with
  | nil => rfl
  | cons lookUp rest ih => exact congrArg (lookUp.beginning :: ·) ih

theorem LookUp.filter_isCompletion (lookUps : List LookUp) :
    (lookUps.flatMap fun lookUp => [lookUp.beginning, lookUp.ending]).filter
      (fun event => event.2.2.isCompletion) = lookUps.map ending := by
  induction lookUps with
  | nil => rfl
  | cons lookUp rest ih => exact congrArg (lookUp.ending :: ·) ih

end

end StorageQuery
