import StorageQuery.Proofs.Answer.LookUps
import StorageQuery.Proofs.Table.Run
/-!
Maps and big maps as containers. A container is seen through its look-ups alone: two that have the same under
every key give the same answers, and if no look-up takes time also the same errors.
-/

set_option autoImplicit false

namespace StorageQuery

/-- In an object with the given fields and one of the given name, the path is that name or leads through the
field. A path with dots that is the name of a field leads through no other. -/
def Path.Reaches (name : String) (fields : List (String × Storage)) (path : Path) : Prop :=
  if 1 < path.components.length ∧ (path.text = name ∨ (Table.find? (· == ·) path.text fields).isSome) then
    path.text = name
  else path.components.head? = some name

theorem Storage.field?_insert_of_ne {name other : String} (h : name ≠ other) (value : Storage)
    (fields : List (String × Storage)) :
    (Storage.object (Table.insert (· == ·) name value fields)).field? other = (Storage.object fields).field? other :=
  Table.find?_insert_of_ne h value fields

theorem Storage.field?_insert_self (name : String) (value : Storage) (fields : List (String × Storage)) :
    (Storage.object (Table.insert (· == ·) name value fields)).field? name = some value :=
  Table.find?_insert_self name value fields

theorem Storage.get?_insert {name : String} {fields : List (String × Storage)} {path : Path}
    (hb : path.isEmpty = false) (h : ¬ path.Reaches name fields) (value : Storage) :
    (Storage.object (Table.insert (· == ·) name value fields)).get? path = (Storage.object fields).get? path := by
  have hdescend (hhead : path.components.head? ≠ some name) :
      (Storage.object (Table.insert (· == ·) name value fields)).descend? path.components =
        (Storage.object fields).descend? path.components := by
    cases hc : path.components with
    | nil => simp [Path.isEmpty, hc] at hb
    | cons component rest =>
      have hne : name ≠ component := fun heq => hhead (by rw [hc, heq]; rfl)
      rw [descend?, descend?, child?, child?, Table.find?_insert_of_ne hne]
  rw [get?, get?]
  by_cases hdots : 1 < path.components.length
  · have hne : name ≠ path.text := fun heq => h (by simp [Path.Reaches, hdots, heq])
    simp only [if_pos hdots, field?, Table.find?_insert_of_ne hne]
    cases hfield : Table.find? (· == ·) path.text fields with
    | some found => rfl
    | none => exact hdescend fun hhead => h (by simp [Path.Reaches, hne.symm, hfield, hhead])
  · simp only [if_neg hdots]
    exact hdescend fun hhead => h (by simp [Path.Reaches, hdots, hhead])

section
variable {contents : Contents} {delays : Delays} (policy : WidePolicy)

/-- What the work is after a turn is the same, whatever happens in the turn. -/
def Work.Alike {α : Type} (contents : Contents) (delays : Delays) (work other : Work α) : Prop :=
  ∀ now, (work.poll contents now delays).2 = (other.poll contents now delays).2

def Siblings.Alike {α : Type} (contents : Contents) (delays : Delays) (siblings other : Siblings α) : Prop :=
  ∀ now patient clear i, (siblings.poll contents now delays patient clear i).2 =
    (other.poll contents now delays patient clear i).2

theorem Work.Alike.andThen {α β : Type} {work other : Work α} (h : work.Alike contents delays other)
    (next : α → Work β) : (work.andThen next).Alike contents delays (other.andThen next) := by
  intro now
  simp only [Work.poll, h now]
  split <;> rfl

theorem Work.Alike.map {α β : Type} {work other : Work α} (h : work.Alike contents delays other)
    (f : α → β) : (work.map f).Alike contents delays (other.map f) :=
  h.andThen _

/-- Notes end in the turn in which they begin, so what they say makes no difference. -/
theorem Work.alike_note_andThen {β : Type} (notes others : List Note) {next next' : Unit → Work β}
    (h : (next ()).Alike contents delays (next' ())) :
    ((Work.note notes).andThen next).Alike contents delays ((Work.note others).andThen next') := by
  intro now
  simp only [Work.poll, Work.outcome?, h now]

theorem Work.alike_all {α : Type} {siblings other : Siblings α} (patient : Bool)
    (h : siblings.Alike contents delays other) :
    (Work.all patient siblings).Alike contents delays (.all patient other) := by
  intro now
  simp only [Work.poll, h now]
  split <;> rfl

theorem Siblings.alike_cons {α : Type} {first first' : Work α} {rest rest' : Siblings α}
    (hf : ∀ i, first.Alike contents (delays.below i) first') (hr : rest.Alike contents delays rest') :
    (Siblings.cons first rest).Alike contents delays (.cons first' rest') := by
  intro now patient clear i
  simp only [poll, hf i now, hr now]
  split <;> rfl

theorem Work.Alike.run {α : Type} {work other : Work α} (h : work.Alike contents delays other) (now : Nat)
    (hw : work.outcome? = none) (ho : other.outcome? = none) (hdue : work.due? = other.due?) :
    (work.run contents delays now).outcome = (other.run contents delays now).outcome ∧
      (work.run contents delays now).finish = (other.run contents delays now).finish := by
  have hinstant : work.instant now = other.instant now := by rw [instant, instant, hdue]
  rw [run_of_pending contents delays now hw, run_of_pending contents delays now ho, hinstant, h]
  exact ⟨rfl, rfl⟩

/-- Its look-ups take no time. -/
def Storage.Immediate (delays : Delays) : Storage → Prop
  | .bigMap handle => ∀ position key, delays position handle.pointer key = 0
  | _ => True

theorem Storage.Immediate.below {container : Storage} (h : container.Immediate delays) (i : Nat) :
    container.Immediate (delays.below i) := by
  cases container with
  | bigMap handle => exact fun position key => h (i :: position) key
  | _ => trivial

namespace Evaluation

theorem poll_lookup {container : Storage} (h : container.Immediate delays) (key : Key) (now : Nat) :
    ((lookup container key).poll contents now delays).2 = .ended (container.find contents key) := by
  cases container with
  | bigMap handle =>
    have hdelay : delays [] handle.pointer key = 0 := h [] key
    simp [lookup, Work.poll, hdelay, Storage.find]
  | _ => rfl

variable {container other : Storage} (hc : container.Immediate delays) (ho : other.Immediate delays)
  (h : ∀ key, container.find contents key = other.find contents key)
include hc ho h

theorem alike_row (request : Request) :
    (row policy container request).Alike contents delays (row policy other request) := by
  have hlookup (key : Key) : (lookup container key).Alike contents delays (lookup other key) := fun now => by
    rw [poll_lookup hc, poll_lookup ho, h]
  cases request with
  | whole key => exact (hlookup key).andThen _
  | within key selectors => exact (hlookup key).andThen _

theorem alike_rows (requests : List Request) :
    (rows policy container requests).Alike contents delays (rows policy other requests) := by
  induction requests with
  | nil => exact fun _ _ _ _ => rfl
  | cons request rest ih =>
    exact Siblings.alike_cons (fun i => (alike_row policy (hc.below i) (ho.below i) h request).map _) ih

end Evaluation

theorem Reading.rows_congr {container other : Storage}
    (h : ∀ key, container.find contents key = other.find contents key) (requests : List Request) :
    rows contents policy container requests = rows contents policy other requests := by
  have hrow (request : Request) :
      row contents policy container request = row contents policy other request := by
    cases request <;> simp only [row, h]
  induction requests with
  | nil => rfl
  | cons request rest ih => rw [rows_cons, rows_cons, hrow, ih]

end

section
variable {contents : Contents} {delays : Delays} (policy : WidePolicy) {name : String}
  {fields : List (String × Storage)} {container other : Storage}
  (hc : container.isContainer = true) (ho : other.isContainer = true)
  (h : ∀ key, container.find contents key = other.find contents key)
include hc ho h

theorem Reading.field_insert_container {selector : Selector} (hb : selector.isBlank = false)
    (hpath : ∀ path, selector = .path path → ¬ path.Reaches name fields) :
    field contents policy (.object (Table.insert (· == ·) name container fields)) selector =
      field contents policy (.object (Table.insert (· == ·) name other fields)) selector := by
  cases selector with
  | path path =>
    have hget := Storage.get?_insert hb (hpath path rfl)
    simp only [field, hget]
  | keys asked requests =>
    by_cases hname : name = asked
    · subst hname
      rw [field_keys_entered (Storage.field?_insert_self name container fields) hc,
        field_keys_entered (Storage.field?_insert_self name other fields) ho, rows_congr policy h]
    · simp only [field, Storage.field?_insert_of_ne hname]

theorem Reading.level_insert_container {selectors : List Selector}
    (hpaths : ∀ path, Selector.path path ∈ selectors → ¬ path.Reaches name fields) :
    level contents policy (.object (Table.insert (· == ·) name container fields)) selectors =
      level contents policy (.object (Table.insert (· == ·) name other fields)) selectors := by
  induction selectors with
  | nil => rfl
  | cons selector rest ih =>
    have hrest := ih fun path hm => hpaths path (.tail _ hm)
    cases hb : selector.isBlank with
    | true => rw [level_cons_of_blank hb, level_cons_of_blank hb, hrest]
    | false =>
      have hfirst := field_insert_container policy hc ho h hb fun path heq =>
        hpaths path (heq ▸ List.mem_cons_self)
      rw [level_cons hb, level_cons hb, hrest, hfirst]

variable (hi : container.Immediate delays) (hi' : other.Immediate delays)
include hi hi'

theorem Evaluation.alike_field {selector : Selector} (hb : selector.isBlank = false)
    (hpath : ∀ path, selector = .path path → ¬ path.Reaches name fields) :
    (field policy (.object (Table.insert (· == ·) name container fields)) selector).Alike contents delays
      (field policy (.object (Table.insert (· == ·) name other fields)) selector) := by
  cases selector with
  | path path =>
    have hget := Storage.get?_insert hb (hpath path rfl)
    intro now
    simp only [field, pathResult, hget]
  | keys asked requests =>
    by_cases hname : name = asked
    · subst hname
      have hentered {value : Storage} (hv : value.isContainer = true) :
          field policy (.object (Table.insert (· == ·) name value fields)) (.keys name requests) =
            (Work.note [.readingKeys name value.kind requests.length]).andThen fun _ =>
              (Work.all (isCrowd requests.length) (rows policy value requests)).map .rows := by
        simp only [field, Storage.field?_insert_self]
        cases value <;> first | rfl | cases hv
      rw [hentered hc, hentered ho]
      exact Work.alike_note_andThen _ _ ((Work.alike_all _ (alike_rows policy hi hi' h requests)).map _)
    · intro now
      simp only [field, Storage.field?_insert_of_ne hname]

theorem Evaluation.alike_fields {selectors : List Selector}
    (hpaths : ∀ path, Selector.path path ∈ selectors → ¬ path.Reaches name fields) :
    (Evaluation.fields policy (.object (Table.insert (· == ·) name container fields)) selectors).Alike
      contents delays
      (Evaluation.fields policy (.object (Table.insert (· == ·) name other fields)) selectors) := by
  induction selectors with
  | nil => exact fun _ _ _ _ => rfl
  | cons selector rest ih =>
    have hrest := ih fun path hm => hpaths path (.tail _ hm)
    rw [Evaluation.fields, Evaluation.fields]
    cases hb : selector.isBlank with
    | true => exact hrest
    | false =>
      have hfirst (i : Nat) := Evaluation.alike_field policy hc ho h (hi.below i) (hi'.below i) hb
        fun path heq => hpaths path (heq ▸ List.mem_cons_self)
      exact Siblings.alike_cons (fun i => (hfirst i).map _) hrest

end

/-- In an object, a map and a big map that has the same under every key are answered from alike, however
long its look-ups take, if the field is reached by its keys alone. If they take no time the answers also fail
alike. -/
theorem Storage.select_map_as_bigMap {contents : Contents} {entries : List (Key × Storage)} {handle : BigMap}
    (h : ∀ key, contents handle.pointer key = .ok (Table.find? Key.same key entries)) (policy : WidePolicy)
    (name : String) (fields : List (String × Storage)) {selectors : List Selector}
    (hpaths : ∀ path, Selector.path path ∈ selectors → ¬ path.Reaches name fields) :
    let here := Storage.object (Table.insert (· == ·) name (.map entries) fields)
    let there := Storage.object (Table.insert (· == ·) name (.bigMap handle) fields)
    (∀ (delays delays' : Delays) (answer : Answer),
      (here.select contents delays policy selectors).outcome = .ok answer ↔
        (there.select contents delays' policy selectors).outcome = .ok answer) ∧
    ∀ delays : Delays, (∀ position key, delays position handle.pointer key = 0) →
      (here.select contents delays policy selectors).outcome =
          (there.select contents delays policy selectors).outcome ∧
        (here.select contents delays policy selectors).finish =
          (there.select contents delays policy selectors).finish := by
  have hfind (key : Key) : (Storage.map entries).find contents key = (Storage.bigMap handle).find contents key :=
    (h key).symm
  refine ⟨fun delays delays' answer => ?_, fun delays hzero => ?_⟩
  · rw [outcome_select_eq_ok_iff, outcome_select_eq_ok_iff,
      Reading.level_insert_container policy rfl rfl hfind hpaths]
  · have hlocal : (Storage.map entries).Immediate delays := trivial
    have halike := Evaluation.alike_fields policy rfl rfl hfind hlocal hzero hpaths
    refine (Work.alike_all _ halike).run 0 rfl rfl ?_
    exact (Evaluation.due?_level ..).trans (Evaluation.due?_level ..).symm

/-- A path beside the field and one within a value found. -/
theorem Storage.select_map_as_bigMap_within :
    let entries : List (Key × Storage) := [(.string "a", .object [("x", .bool true)])]
    let contents : Contents := fun _ key => .ok (Table.find? Key.same key entries)
    let selectors : List Selector :=
      [.keys "m" [.within (.string "a") [.path ⟨"x"⟩], .whole (.string "b")], .path ⟨"p"⟩]
    let here := Storage.object [("p", .bool false), ("m", .map entries)]
    let there := Storage.object [("p", .bool false), ("m", .bigMap ⟨"7", some 3⟩)]
    (there.select contents (fun _ _ _ => 5) .lossy selectors).outcome =
        .ok [("m", .rows [(.string "a", .nested [("x", .value (.bool true))]), (.string "b", .missing .key)]),
          ("p", .value (.bool false))] ∧
      (here.select contents (fun _ _ _ => 0) .strict selectors).outcome =
        (there.select contents (fun _ _ _ => 0) .strict selectors).outcome := by
  intro entries contents selectors here there
  have hpaths : ∀ path, Selector.path path ∈ selectors →
      ¬ path.Reaches "m" [("p", .bool false), ("m", .null)] := by
    intro path hm
    obtain rfl : path = ⟨"p"⟩ := by simpa [selectors] using hm
    have hcomponents : Path.components ⟨"p"⟩ = ["p"] := rfl
    simp [Path.Reaches, hcomponents]
  have hfound : ∀ key, contents "7" key = .ok (Table.find? Key.same key entries) := fun _ => rfl
  have h := @select_map_as_bigMap contents entries ⟨"7", some 3⟩ hfound
  obtain ⟨hanswers, -⟩ := h .lossy "m" _ hpaths
  obtain ⟨-, hruns⟩ := h .strict "m" _ hpaths
  let requests : List Request := [.within (.string "a") [.path ⟨"x"⟩], .whole (.string "b")]
  let rows : List (Key × RowResult) :=
    [(.string "a", .nested [("x", .value (.bool true))]), (.string "b", .missing .key)]
  have hrows : Reading.rows contents .lossy (.map entries) requests = .ok rows := by
    have ha : Table.find? Key.same (.string "a") entries = some (.object [("x", .bool true)]) :=
      if_pos (by decide +kernel)
    have hb : Table.find? Key.same (.string "b") entries = none := if_neg (by decide +kernel)
    simp only [requests, Reading.rows, Reading.row, Storage.find, ha, hb]
    rfl
  have hlevel : Reading.level contents .lossy here selectors =
      .ok [("m", .rows rows), ("p", .value (.bool false))] := by
    have hfield : Reading.field contents .lossy here (.keys "m" requests) = .ok (.rows rows) :=
      congrArg (Except.map FieldResult.rows) hrows
    simp only [selectors, Reading.level]
    rw [hfield]
    rfl
  exact ⟨(hanswers (fun _ _ _ => 5) _ _).1 (Storage.outcome_select_eq_ok_iff.2 hlevel),
    (hruns (fun _ _ _ => 0) fun _ _ => rfl).1⟩

end StorageQuery
