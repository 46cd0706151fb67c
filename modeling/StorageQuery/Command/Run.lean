import StorageQuery.Indexer.Client
set_option autoImplicit false

namespace StorageQuery.Command

inductive FileFault where
  | missing
  | denied
  | notDirectory
  | directory
  | nameTooLong
  | zeroInName
  | notText
  deriving DecidableEq, Repr

def FileFault.message : FileFault → String
  | .missing => "No such file or directory (os error 2)"
  | .denied => "Permission denied (os error 13)"
  | .notDirectory => "Not a directory (os error 20)"
  | .directory => "Is a directory (os error 21)"
  | .nameTooLong => "File name too long (os error 36)"
  | .zeroInName => "file name contained an unexpected NUL byte"
  | .notText => "stream did not contain valid UTF-8"

abbrev Files := String → Except FileFault String

inductive RunError where
  | unreadable (path : String) (fault : FileFault)
  | notJson (path : String) (fault : Json.Fault)
  | notSelectors (path : String) (fault : ShapeFault)
  | indexer (error : IndexerError)
  | storage (error : StorageError)

def RunError.message : RunError → String
  | .unreadable path fault => s!"cannot read {path}: {fault.message}"
  | .notJson path fault => s!"{path} is not valid JSON: {fault.message}"
  | .notSelectors path fault => s!"invalid selectors in {path}: {fault.message}"
  | .indexer error => s!"indexer: {error.message}"
  | .storage error => error.message

structure Invocation where
  storage : String
  selectors : Option String := none
  settings : Indexer.Settings := {}
  policy : WidePolicy := .lossy
  pretty : Bool := false

def readJson (files : Files) (path : String) : Except RunError Json := do
  (Json.read (← (files path).mapError (.unreadable path))).mapError (.notJson path)

def readSelectors (files : Files) (path : String) : Except RunError (List Selector) := do
  (Selector.ofJson (← readJson files path)).mapError (.notSelectors path)

def layOut (pretty : Bool) (json : Json) : String := if pretty then json.prettyText else json.text

/-- The text to print. The indexer is looked at first, then the storage, then the selectors. -/
def run (files : Files) (network : Indexer.Network) (call : Invocation) : Except RunError String := do
  let client ← (Indexer.Client.ofSettings call.settings).mapError .indexer
  let document ← readJson files call.storage
  let root ← (Storage.ofDocument (some Indexer.resolver) document).mapError .storage
  match call.selectors with
  | none =>
    let json ← (root.render call.policy).outcome.mapError .storage
    return layOut call.pretty json
  | some path =>
    let selectors ← readSelectors files path
    let answer ← (root.answer (client.remote network) call.policy selectors).outcome.mapError .storage
    return layOut call.pretty answer.tree

end StorageQuery.Command
