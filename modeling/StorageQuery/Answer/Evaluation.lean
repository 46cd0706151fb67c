import StorageQuery.Answer.Work
import StorageQuery.Selector
/-!
Answering selectors from a storage. All selectors, and all keys of one selector, are answered side by
side; what is selected within a value found begins when the value is there. Only look-ups in big maps
take time.
-/

set_option autoImplicit false

namespace StorageQuery

/-- The names of an object's fields, or the kind of anything else. -/
def Storage.summary : Storage → String
  | .object fields => "object \x7b" ++ String.intercalate ", " (fields.map Prod.fst) ++ "\x7d"
  | value => value.kind

def Work.map {α β : Type} (f : α → β) (work : Work α) : Work β :=
  work.andThen fun a => .ended (.ok (f a))

namespace Evaluation

def plain (policy : WidePolicy) (value : Storage) : Work Json :=
  (Work.note (value.warnings policy)).andThen fun _ => .ended (value.toPlain policy)

def lookup (container : Storage) (key : Key) : Work (Option Storage) :=
  match container with
  | .map entries => .ended (.ok (Table.find? Key.same key entries))
  | .bigMap handle => .ask handle.pointer key
  | _ => .ended (.ok none)

def pathResult (policy : WidePolicy) (root : Storage) (path : Path) : Work FieldResult :=
  match root.get? path with
  | none | some .null => .ended (.ok (.missing .field))
  | some value => (plain policy value).map .value

/-- So many siblings are too many to be watched one by one. -/
def isCrowd (count : Nat) : Bool := decide (30 < count)

mutual
def fields (policy : WidePolicy) (root : Storage) : List Selector → Siblings (String × FieldResult)
  | [] => .nil
  | selector :: rest =>
    if selector.isBlank then fields policy root rest
    else .cons ((field policy root selector).map (selector.name, ·)) (fields policy root rest)
def field (policy : WidePolicy) (root : Storage) : Selector → Work FieldResult
  | .path path => pathResult policy root path
  | .keys name requests =>
    match root.field? name with
    | none | some .null => .ended (.ok (.missing .field))
    | some value =>
      if value.isContainer then
        (Work.note [.readingKeys name value.kind requests.length]).andThen fun _ =>
          (Work.all (isCrowd requests.length) (rows policy value requests)).map .rows
      else .ended (.ok (.missing .map))
def rows (policy : WidePolicy) (container : Storage) : List Request → Siblings (Key × RowResult)
  | [] => .nil
  | request :: rest =>
    .cons ((row policy container request).map (request.key, ·)) (rows policy container rest)
def row (policy : WidePolicy) (container : Storage) : Request → Work RowResult
  | .whole key =>
    (lookup container key).andThen fun
      | none => .ended (.ok (.missing .key))
      | some found => (plain policy found).map .value
  | .within key selectors =>
    (lookup container key).andThen fun
      | none => .ended (.ok (.missing .key))
      | some found =>
        (Work.all (isCrowd selectors.length) (fields policy found selectors)).map .nested
end

/-- One level of selectors. The count is of all that were given, blank ones too. -/
def level (policy : WidePolicy) (root : Storage) (selectors : List Selector) : Work Answer :=
  .all (isCrowd selectors.length) (fields policy root selectors)

end Evaluation

def Timeline.noteFailure {α : Type} (task : Task) (root : Storage) (run : Timeline Event α) :
    Timeline Event α :=
  match run.outcome with
  | .ok _ => run
  | .error e => { run with events := run.events ++ [(run.finish, .noted (.failed task root.summary e))] }

namespace Storage

/-- Selectors answered from a storage, each event with its position among what is done side by side. -/
def select (contents : Contents) (delays : Delays) (policy : WidePolicy) (root : Storage)
    (selectors : List Selector) : Timeline (Position × Event) Answer :=
  (Evaluation.level policy root selectors).run contents delays 0

def answer (remote : Remote) (policy : WidePolicy) (root : Storage) (selectors : List Selector) :
    Timeline Event Answer :=
  ((root.select remote.contents remote.delays policy selectors).mapEvents Prod.snd).noteFailure
    (.select selectors) root

def render (policy : WidePolicy) (root : Storage) : Timeline Event Json :=
  (Timeline.atOnce 0 ((root.warnings policy).map .noted) (root.toPlain policy)).noteFailure .render root

end Storage

end StorageQuery
