import StorageQuery.Answer.Evaluation
/-!
Projectors answer from storages under one policy, and have a span for the log: whatever happens while they
work is recorded with the spans that are entered at that moment.
-/

set_option autoImplicit false

namespace StorageQuery

structure Span where
  name : String
  deriving DecidableEq, Repr

/-- An event with the spans that are entered when it happens, the outermost first. -/
structure Recorded where
  spans : List Span
  event : Event

namespace Timeline

def unspanned {α : Type} (run : Timeline Event α) : Timeline Recorded α :=
  run.mapEvents fun event => ⟨[], event⟩

def entered {α : Type} (span : Span) (run : Timeline Recorded α) : Timeline Recorded α :=
  run.mapEvents fun recorded => { recorded with spans := span :: recorded.spans }

end Timeline

structure Projector where
  policy : WidePolicy := .lossy
  span : Span
  deriving DecidableEq, Repr

namespace Projector

/-- The evaluation is done within the span. When it has failed, the span is entered once more to note the
failure. -/
def project (projector : Projector) (contents : Contents) (delays : Delays) (root : Storage)
    (selectors : List Selector) : Timeline Recorded Answer :=
  let run := ((root.select contents delays projector.policy selectors).mapEvents
    Prod.snd).unspanned.entered projector.span
  match run.outcome with
  | .ok _ => run
  | .error e =>
    let failure : Timeline Event Answer :=
      .atOnce run.finish [.noted (.failed (.select selectors) root.summary e)] run.outcome
    { run with events := run.events ++ (failure.unspanned.entered projector.span).events }

def render (projector : Projector) (root : Storage) : Timeline Recorded Json :=
  (root.render projector.policy).unspanned.entered projector.span

theorem project_eq (projector : Projector) (contents : Contents) (delays : Delays) (root : Storage)
    (selectors : List Selector) :
    projector.project contents delays root selectors =
      (((root.select contents delays projector.policy selectors).mapEvents Prod.snd).noteFailure
        (.select selectors) root).mapEvents fun event => ⟨[projector.span], event⟩ := by
  unfold project Timeline.noteFailure
  generalize (root.select contents delays projector.policy selectors).mapEvents Prod.snd = run
  obtain ⟨events, finish, outcome⟩ := run
  cases outcome with
  | ok answer => simp [Timeline.unspanned, Timeline.entered, Timeline.mapEvents]
  | error e => simp [Timeline.unspanned, Timeline.entered, Timeline.mapEvents, Timeline.atOnce]

theorem render_eq (projector : Projector) (root : Storage) :
    projector.render root =
      (root.render projector.policy).mapEvents fun event => ⟨[projector.span], event⟩ := by
  simp [render, Timeline.unspanned, Timeline.entered, Timeline.mapEvents]

end Projector

end StorageQuery
