import StorageQuery.Indexer.Error
import StorageQuery.Url.Reader
set_option autoImplicit false

namespace StorageQuery.Indexer

structure Settings where
  baseUrl : String := "https://api.tzkt.io"
  timeoutMs : Nat := 30000
  retries : Nat := 3
  deriving DecidableEq, Repr

def urlVariable : String := "STOREVIEW_INDEXER_URL"

def timeoutVariable : String := "STOREVIEW_INDEXER_TIMEOUT_MS"

def retriesVariable : String := "STOREVIEW_INDEXER_RETRIES"

/-- The number of a variable, blanks at its ends left out. -/
def readVariable (bound : Nat) (text kind name : String) : Except IndexerError Nat :=
  match Decimal.readBelow? bound (Text.trim text.toList) with
  | some n => .ok n
  | none => .error (.configuration s!"{name} must be {kind}, got '{text}'")

def withVariable {α : Type} (value : Option String) (settings : α)
    (set : String → Except IndexerError α) : Except IndexerError α :=
  match value with
  | none => .ok settings
  | some text => set text

/-- The first variable with an improper value, in the order address, time, repetitions, is reported. -/
def Settings.ofVariables (lookup : String → Option String) : Except IndexerError Settings := do
  let settings ← withVariable (lookup urlVariable) {} fun text =>
    match Url.read text with
    | .ok _ => .ok { baseUrl := text }
    | .error fault => .error (.configuration s!"{urlVariable} is not a valid URL: {fault.message}")
  let settings ← withVariable (lookup timeoutVariable) settings fun text => do
    return { settings with
      timeoutMs := ← readVariable UInt64.size text "a number of milliseconds" timeoutVariable }
  withVariable (lookup retriesVariable) settings fun text => do
    return { settings with
      retries := ← readVariable UInt32.size text "a non-negative integer" retriesVariable }

structure Overrides where
  baseUrl : Option String := none
  timeoutMs : Option Nat := none
  retries : Option Nat := none

def Overrides.apply (overrides : Overrides) (settings : Settings) : Settings where
  baseUrl := overrides.baseUrl.getD settings.baseUrl
  timeoutMs := overrides.timeoutMs.getD settings.timeoutMs
  retries := overrides.retries.getD settings.retries

end StorageQuery.Indexer
