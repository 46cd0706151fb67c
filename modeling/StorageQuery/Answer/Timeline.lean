import StorageQuery.Storage.Error
set_option autoImplicit false

namespace StorageQuery

structure Timeline (ε α : Type) where
  /-- In the order in which they happen. -/
  events : List (Nat × ε)
  finish : Nat
  outcome : Except StorageError α

namespace Timeline

variable {ε ε' α : Type}

def atOnce (now : Nat) (events : List ε) (outcome : Except StorageError α) : Timeline ε α :=
  ⟨events.map (now, ·), now, outcome⟩

def after (now : Nat) (events : List ε) (run : Timeline ε α) : Timeline ε α :=
  { run with events := events.map (now, ·) ++ run.events }

def mapEvents (f : ε → ε') (run : Timeline ε α) : Timeline ε' α :=
  ⟨run.events.map fun (now, event) => (now, f event), run.finish, run.outcome⟩

end Timeline

end StorageQuery
