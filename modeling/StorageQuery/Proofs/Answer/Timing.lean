import StorageQuery.Proofs.Answer.Reading
/-!
An answer does not depend on the time that look-ups take: it is that of the plain reading, in which each
selector and each key is read on its own. Neither does it depend on time whether there is an answer.
-/

set_option autoImplicit false

namespace StorageQuery

/-- However long the look-ups take, this is the answer. -/
def Storage.Answers (contents : Contents) (policy : WidePolicy) (root : Storage)
    (selectors : List Selector) (answer : Answer) : Prop :=
  ∀ delays, (root.select contents delays policy selectors).outcome = .ok answer

mutual
/-- Something that a selector asks for fails on its own: a value that the policy refuses, or a key. -/
inductive Selector.Fails (contents : Contents) (policy : WidePolicy) : Storage → Selector → Prop where
  | path {root value : Storage} {path : Path} {e : StorageError} (asks : path.isEmpty = false)
    (found : root.get? path = some value) (refused : value.toPlain policy = .error e) :
    Selector.Fails contents policy root (.path path)
  | keys {root container : Storage} {name : String} {requests : List Request} {request : Request}
    (found : root.field? name = some container) (entered : container.isContainer = true)
    (member : request ∈ requests) (fails : Request.Fails contents policy container request) :
    Selector.Fails contents policy root (.keys name requests)
inductive Request.Fails (contents : Contents) (policy : WidePolicy) : Storage → Request → Prop where
  | lookup {container : Storage} {request : Request} {e : StorageError}
    (find : container.find contents request.key = .error e) :
    Request.Fails contents policy container request
  | value {container found : Storage} {key : Key} {e : StorageError}
    (find : container.find contents key = .ok (some found)) (refused : found.toPlain policy = .error e) :
    Request.Fails contents policy container (.whole key)
  | nested {container found : Storage} {key : Key} {selectors : List Selector} {selector : Selector}
    (find : container.find contents key = .ok (some found))
    (member : selector ∈ selectors) (fails : Selector.Fails contents policy found selector) :
    Request.Fails contents policy container (.within key selectors)
end

section
variable {contents : Contents} {policy : WidePolicy} {root container : Storage}

theorem Selector.fails_path_iff {path : Path} :
    (Selector.path path).Fails contents policy root ↔
      path.isEmpty = false ∧ ∃ value, root.get? path = some value ∧
        ∃ e, value.toPlain policy = .error e := by
  constructor
  · rintro ⟨asks, found, refused⟩
    exact ⟨asks, _, found, _, refused⟩
  · rintro ⟨asks, _, found, _, refused⟩
    exact .path asks found refused

theorem Selector.fails_keys_iff {name : String} {requests : List Request} :
    (Selector.keys name requests).Fails contents policy root ↔
      ∃ container, root.field? name = some container ∧ container.isContainer = true ∧
        ∃ request ∈ requests, request.Fails contents policy container := by
  constructor
  · rintro (_ | ⟨found, entered, member, fails⟩)
    exact ⟨_, found, entered, _, member, fails⟩
  · rintro ⟨_, found, entered, _, member, fails⟩
    exact .keys found entered member fails

theorem Request.fails_whole_iff {key : Key} :
    (Request.whole key).Fails contents policy container ↔
      (∃ e, container.find contents key = .error e) ∨
        ∃ found, container.find contents key = .ok (some found) ∧
          ∃ e, found.toPlain policy = .error e := by
  constructor
  · rintro (find | ⟨find, refused⟩)
    · exact .inl ⟨_, find⟩
    · exact .inr ⟨_, find, _, refused⟩
  · rintro (⟨_, find⟩ | ⟨_, find, _, refused⟩)
    · exact .lookup find
    · exact .value find refused

theorem Request.fails_within_iff {key : Key} {selectors : List Selector} :
    (Request.within key selectors).Fails contents policy container ↔
      (∃ e, container.find contents key = .error e) ∨
        ∃ found, container.find contents key = .ok (some found) ∧
          ∃ selector ∈ selectors, selector.Fails contents policy found := by
  constructor
  · rintro (find | _ | ⟨find, member, fails⟩)
    · exact .inl ⟨_, find⟩
    · exact .inr ⟨_, find, _, member, fails⟩
  · rintro (⟨_, find⟩ | ⟨_, find, _, member, fails⟩)
    · exact .lookup find
    · exact .nested find member fails

theorem Storage.answers_iff {selectors : List Selector} {answer : Answer} :
    root.Answers contents policy selectors answer ↔
      Reading.level contents policy root selectors = .ok answer :=
  ⟨fun h => outcome_select_eq_ok_iff.1 (h fun _ _ _ => 0),
    fun h _ => outcome_select_eq_ok_iff.2 h⟩

namespace Reading

theorem level_singleton_of_blank {selector : Selector} (h : selector.isBlank = true)
    {part : Answer} : level contents policy root [selector] = .ok part ↔ part = [] := by
  simp [level_eq_ok_iff, h]

theorem level_singleton {selector : Selector} (h : selector.isBlank = false) {part : Answer} :
    level contents policy root [selector] = .ok part ↔
      ∃ result, field contents policy root selector = .ok result ∧
        part = [(selector.name, result)] := by
  simp [level_eq_ok_iff, h, List.forall₂_cons_left_iff]

theorem level_cons_eq_ok_iff {selector : Selector} {rest : List Selector} {answer : Answer} :
    level contents policy root (selector :: rest) = .ok answer ↔
      ∃ part, level contents policy root [selector] = .ok part ∧
        ∃ others, level contents policy root rest = .ok others ∧ part ++ others = answer := by
  cases hb : selector.isBlank with
  | true =>
    rw [level_cons_of_blank hb]
    simp [level_singleton_of_blank hb]
  | false =>
    simp only [level_singleton hb, level_eq_ok_iff, List.filter_cons, hb, Bool.not_false, ↓reduceIte,
      List.forall₂_cons_left_iff]
    constructor
    · rintro ⟨⟨-, result⟩, others, ⟨rfl, hf⟩, hr, rfl⟩
      exact ⟨_, ⟨result, hf, rfl⟩, others, hr, rfl⟩
    · rintro ⟨-, ⟨result, hf, rfl⟩, others, hr, rfl⟩
      exact ⟨_, others, ⟨rfl, hf⟩, hr, rfl⟩

theorem level_eq_ok_iff_parts {selectors : List Selector} {answer : Answer} :
    level contents policy root selectors = .ok answer ↔
      ∃ parts, List.Forall₂ (fun selector part => level contents policy root [selector] = .ok part)
        selectors parts ∧ parts.flatten = answer := by
  induction selectors generalizing answer with
  | nil =>
    simp only [level, List.forall₂_nil_left_iff, exists_eq_left, List.flatten_nil, Except.ok.injEq]
  | cons selector rest ih =>
    rw [level_cons_eq_ok_iff]
    simp only [ih, List.forall₂_cons_left_iff]
    constructor
    · rintro ⟨part, hp, others, ⟨parts, hparts, rfl⟩, rfl⟩
      exact ⟨part :: parts, ⟨part, parts, hp, hparts, rfl⟩, rfl⟩
    · rintro ⟨-, ⟨part, parts, hp, hparts, rfl⟩, rfl⟩
      exact ⟨part, hp, parts.flatten, ⟨parts, hparts, rfl⟩, rfl⟩

theorem level_keys_eq_ok_iff {name : String} {requests : List Request} {answer : Answer}
    (hf : root.field? name = some container) (hc : container.isContainer = true) :
    level contents policy root [.keys name requests] = .ok answer ↔
      ∃ results, rows contents policy container requests = .ok results ∧
        answer = [(name, .rows results)] := by
  have hfield : field contents policy root (.keys name requests) =
      (rows contents policy container requests).map .rows := by
    cases container <;> simp_all [field, Storage.isContainer]
  rw [level_singleton rfl, hfield]
  cases rows contents policy container requests <;> simp [Except.map, Selector.name]

mutual
theorem level_eq_error_iff (root : Storage) : (selectors : List Selector) →
    ((∃ e, level contents policy root selectors = .error e) ↔
      ∃ selector ∈ selectors, selector.Fails contents policy root)
  | [] => by simp [level]
  | selector :: rest => by
    have hr := level_eq_error_iff root rest
    cases hb : selector.isBlank with
    | true =>
      have hn : ¬ selector.Fails contents policy root := by
        rintro (⟨asks, -, -⟩ | _)
        · simp_all [Selector.isBlank]
        · simp [Selector.isBlank] at hb
      simp [level_cons_of_blank hb, hr, hn]
    | false =>
      have hs := field_eq_error_iff root selector hb
      simp only [level_cons hb, List.mem_cons, exists_eq_or_imp, ← hs, ← hr]
      cases field contents policy root selector <;> simp [Outcome.map_eq_error_iff]
theorem field_eq_error_iff (root : Storage) : (selector : Selector) → selector.isBlank = false →
    ((∃ e, field contents policy root selector = .error e) ↔ selector.Fails contents policy root)
  | .path path, hb => by
    have hb : path.isEmpty = false := hb
    simp only [field, Selector.fails_path_iff, hb, true_and]
    split
    · simp_all
    · simp_all [Storage.toPlain]
    · simp_all [Outcome.map_eq_error_iff]
  | .keys name requests, _ => by
    simp only [field, Selector.fails_keys_iff]
    split
    · simp_all
    · simp_all [Storage.isContainer]
    · rename_i container hnull hvalue
      have hr := rows_eq_error_iff container requests
      cases hc : container.isContainer <;> simp [hvalue, hc, Outcome.map_eq_error_iff, hr]
theorem rows_eq_error_iff (container : Storage) : (requests : List Request) →
    ((∃ e, rows contents policy container requests = .error e) ↔
      ∃ request ∈ requests, request.Fails contents policy container)
  | [] => by simp [rows]
  | request :: rest => by
    have hs := row_eq_error_iff container request
    have hr := rows_eq_error_iff container rest
    simp only [rows_cons, List.mem_cons, exists_eq_or_imp, ← hs, ← hr]
    cases row contents policy container request <;> simp [Outcome.map_eq_error_iff]
theorem row_eq_error_iff (container : Storage) : (request : Request) →
    ((∃ e, row contents policy container request = .error e) ↔
      request.Fails contents policy container)
  | .whole key => by
    rw [row_whole, Request.fails_whole_iff]
    rcases container.find contents key with e | found | found <;> simp [Outcome.map_eq_error_iff]
  | .within key selectors => by
    rw [row_within, Request.fails_within_iff]
    rcases container.find contents key with e | found | found
    · simp
    · simp
    · have hl := level_eq_error_iff found selectors
      simp [Outcome.map_eq_error_iff, hl]
end

end Reading

theorem Storage.answers_keys_iff {name : String} {requests : List Request} {answer : Answer}
    (hf : root.field? name = some container) (hc : container.isContainer = true) :
    root.Answers contents policy [.keys name requests] answer ↔
      ∃ results, answer = [(name, .rows results)] ∧
        List.Forall₂ (fun request result =>
          root.Answers contents policy [.keys name [request]] [(name, .rows [result])])
          requests results := by
  simp only [answers_iff, Reading.level_keys_eq_ok_iff hf hc, Reading.rows_eq_ok_iff]
  constructor
  · rintro ⟨results, hr, rfl⟩
    exact ⟨results, rfl, by simpa using hr⟩
  · rintro ⟨results, rfl, hr⟩
    exact ⟨results, by simpa using hr, rfl⟩

theorem Storage.answers_within_iff {name : String} {key : Key} {selectors : List Selector}
    {found : Storage} {answer : Answer}
    (hf : root.field? name = some container) (hc : container.isContainer = true)
    (find : container.find contents key = .ok (some found)) :
    root.Answers contents policy [.keys name [.within key selectors]] answer ↔
      ∃ inner, answer = [(name, .rows [(key, .nested inner)])] ∧
        found.Answers contents policy selectors inner := by
  simp only [answers_iff, Reading.level_keys_eq_ok_iff hf hc, Reading.rows_cons, Reading.row_within, find]
  cases Reading.level contents policy found selectors <;>
    simp [Except.map, Reading.rows, Request.key]

end

/-- Delays decide neither whether there is an answer nor which. The answer is that of the plain reading,
put together from the answers to each selector, to each key and within each value found; there is none
just when something fails that is asked for. -/
theorem Storage.select_whatever_the_delays (contents : Contents) (policy : WidePolicy) (root : Storage)
    (selectors : List Selector) :
    (∀ delays answer, (root.select contents delays policy selectors).outcome = .ok answer ↔
      root.Answers contents policy selectors answer) ∧
    (∀ remote answer, remote.contents = contents →
      ((root.answer remote policy selectors).outcome = .ok answer ↔
        root.Answers contents policy selectors answer)) ∧
    (∀ answer, root.Answers contents policy selectors answer ↔
      Reading.level contents policy root selectors = .ok answer) ∧
    (∀ answer, root.Answers contents policy selectors answer ↔
      ∃ parts, List.Forall₂ (fun selector part => root.Answers contents policy [selector] part)
        selectors parts ∧ parts.flatten = answer) ∧
    (∀ selector part, selector.isBlank = true →
      (root.Answers contents policy [selector] part ↔ part = [])) ∧
    (∀ name container requests answer, root.field? name = some container →
      container.isContainer = true →
        (root.Answers contents policy [.keys name requests] answer ↔
          ∃ results, answer = [(name, .rows results)] ∧
            List.Forall₂ (fun request result =>
              root.Answers contents policy [.keys name [request]] [(name, .rows [result])])
              requests results)) ∧
    (∀ name container key within found answer, root.field? name = some container →
      container.isContainer = true → container.find contents key = .ok (some found) →
        (root.Answers contents policy [.keys name [.within key within]] answer ↔
          ∃ inner, answer = [(name, .rows [(key, .nested inner)])] ∧
            found.Answers contents policy within inner)) ∧
    (∀ delays, (∃ e, (root.select contents delays policy selectors).outcome = .error e) ↔
      ∃ selector ∈ selectors, selector.Fails contents policy root) := by
  refine ⟨?_, ?_, ?_, ?_, ?_, ?_, ?_, ?_⟩
  · intro delays answer
    rw [outcome_select_eq_ok_iff, answers_iff]
  · rintro remote answer rfl
    rw [outcome_answer, outcome_select_eq_ok_iff, answers_iff]
  · exact fun answer => answers_iff
  · intro answer
    simp only [answers_iff]
    exact Reading.level_eq_ok_iff_parts
  · intro selector part h
    rw [answers_iff, Reading.level_singleton_of_blank h]
  · exact fun _ _ _ _ hf hc => answers_keys_iff hf hc
  · exact fun _ _ _ _ _ _ hf hc find => answers_within_iff hf hc find
  · intro delays
    rw [← Reading.level_eq_error_iff]
    cases hs : (root.select contents delays policy selectors).outcome with
    | ok answer => simp [outcome_select_eq_ok_iff.1 hs]
    | error e =>
      cases hl : Reading.level contents policy root selectors with
      | ok answer => simp [outcome_select_eq_ok_iff.2 hl] at hs
      | error e' => simp

end StorageQuery
