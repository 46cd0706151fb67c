import StorageQuery.Answer.Basic
import StorageQuery.Answer.Timeline
import StorageQuery.Selector
import StorageQuery.Storage.Plain
set_option autoImplicit false

namespace StorageQuery

structure Reply where
  delay : Nat
  outcome : Except StorageError (Option Storage)

/-- Where the entries of big maps are kept: a reply for each pointer and key. -/
abbrev Remote := String → Key → Reply

/-- Where something stands among all that is done side by side: its place among its siblings, that of
what is around it before. -/
abbrev Position := List Nat

abbrev Contents := String → Key → Except StorageError (Option Storage)

/-- How long each look-up takes. Two look-ups of one key need not take the same time. -/
abbrev Delays := Position → String → Key → Nat

def Remote.contents (remote : Remote) : Contents := fun pointer key => (remote pointer key).outcome

def Remote.delays (remote : Remote) : Delays := fun _ pointer key => (remote pointer key).delay

def Delays.below (delays : Delays) (i : Nat) : Delays := fun position => delays (i :: position)

inductive Level where
  | debug
  | warn
  | error
  deriving DecidableEq, Repr

def Level.name : Level → String
  | .debug => "DEBUG"
  | .warn => "WARN"
  | .error => "ERROR"

inductive Task where
  | select (selectors : List Selector)
  | render
  deriving Repr

inductive Note where
  | readingKeys (field kind : String) (keys : Nat)
  | precisionLost (value : Int)
  | failed (task : Task) (storage : String) (error : StorageError)

namespace Note

def level : Note → Level
  | .readingKeys .. => .debug
  | .precisionLost _ => .warn
  | .failed .. => .error

def message : Note → String
  | .readingKeys .. => "reading keys from container"
  | .precisionLost _ => "big integer exceeds 64-bit range, converted with precision loss"
  | .failed (.select _) _ _ => "unexpected error while projecting contract storage"
  | .failed .render _ _ => "unexpected error while rendering contract storage"

/-- The selectors of a failed task are left out: they are told in the form of the debugger, which has no text
here. -/
def fields : Note → List (String × Json)
  | .readingKeys field kind keys =>
    [("field", .string field), ("kind", .string kind),
      ("keys", .number ((Number.ofInt? keys).getD (.real (Double.ofInt keys))))]
  | .precisionLost n =>
    [("value", .string (String.ofList (Decimal.ofInt n))),
      ("approx", .string (String.ofList (Double.ofInt n).text))]
  | .failed _ storage error => [("storage", .string storage), ("error", .string error.message)]

end Note

inductive Event where
  | started (pointer : String) (key : Key)
  | completed (pointer : String) (key : Key)
  | noted (note : Note)

def Storage.warnings (policy : WidePolicy) (value : Storage) : List Note :=
  if policy = .lossy then value.wide.map .precisionLost else []

end StorageQuery
