import StorageQuery.Command.Run
/-!
Arguments of the command. An option takes the text after its equals sign or the next argument, which
must not begin with a hyphen unless it is nothing else. No option may come twice. The first argument
that is at fault decides, and so does the first that asks for the version or for help, unless a value
is due there.
-/

set_option autoImplicit false

namespace StorageQuery.Command

inductive Flag where
  | storage
  | selectors
  | indexerUrl
  | timeoutMs
  | retries
  | bigInt
  | pretty
  | logLevel
  | help
  | version
  deriving DecidableEq, Repr

namespace Flag

def all : List Flag :=
  [storage, selectors, indexerUrl, timeoutMs, retries, bigInt, pretty, logLevel, help, version]

def name : Flag → String
  | storage => "storage"
  | selectors => "selectors"
  | indexerUrl => "indexer-url"
  | timeoutMs => "timeout-ms"
  | retries => "retries"
  | bigInt => "big-int"
  | pretty => "pretty"
  | logLevel => "log-level"
  | help => "help"
  | version => "version"

def takesValue : Flag → Bool
  | pretty | help | version => false
  | _ => true

def ofName? (name : String) : Option Flag := all.find? fun flag => flag.name == name

end Flag

structure Arguments where
  storage : String := ""
  selectors : Option String := none
  overrides : Indexer.Overrides := {}
  policy : WidePolicy := .lossy
  pretty : Bool := false

inductive Halt where
  | usage
  | help
  | version
  deriving DecidableEq, Repr

def readSigned? (cs : List Char) : Option Int :=
  match cs with
  | '-' :: rest => (Decimal.readDigits? rest).map fun n => -(n : Int)
  | cs => (Decimal.readBelow? (UInt64.size / 2) cs).map fun n => (n : Int)

def readRetries? (text : String) : Option Nat :=
  (readSigned? text.toList).bind fun n => if 0 ≤ n ∧ n < UInt32.size then some n.toNat else none

def Arguments.set? (arguments : Arguments) (flag : Flag) (value : String) : Option Arguments :=
  match flag with
  | .storage => if value = "" then none else some { arguments with storage := value }
  | .selectors => if value = "" then none else some { arguments with selectors := some value }
  | .indexerUrl => some { arguments with overrides.baseUrl := some value }
  | .timeoutMs => (Decimal.readBelow? UInt64.size value.toList).map fun n =>
      { arguments with overrides.timeoutMs := some n }
  | .retries => (readRetries? value).map fun n => { arguments with overrides.retries := some n }
  | .bigInt => (WidePolicy.ofText value).toOption.map fun policy => { arguments with policy }
  | .pretty => some { arguments with pretty := true }
  | .logLevel => some arguments
  | .help | .version => some arguments

structure Progress where
  seen : List Flag := []
  due : Option Flag := none
  arguments : Arguments := {}

def Progress.settle (progress : Progress) (flag : Flag) (value : String) : Except Halt Progress :=
  match progress.arguments.set? flag value with
  | some arguments => .ok { progress with arguments, due := none }
  | none => .error .usage

def Progress.flag (progress : Progress) (flag : Flag) (value : Option String) : Except Halt Progress :=
  if progress.due.isSome then .error .usage
  else if value.isSome ∧ !flag.takesValue then .error .usage
  else if flag = .help then .error .help
  else if flag = .version then .error .version
  else if progress.seen.contains flag then .error .usage
  else
    let progress := { progress with seen := flag :: progress.seen }
    match value with
    | some value => progress.settle flag value
    | none => if flag.takesValue then .ok { progress with due := some flag } else progress.settle flag ""

def splitEquals (cs : List Char) : String × Option String :=
  let (name, value) := Url.cut '=' cs
  (String.ofList name, value.map String.ofList)

def Progress.step (progress : Progress) (argument : String) : Except Halt Progress :=
  match argument.toList with
  | '-' :: '-' :: rest =>
    let (name, value) := splitEquals rest
    match Flag.ofName? name with
    | some flag => progress.flag flag value
    | none => .error .usage
  | '-' :: 'h' :: _ => progress.flag .help none
  | '-' :: 'V' :: _ => progress.flag .version none
  | '-' :: _ :: _ => .error .usage
  | _ =>
    match progress.due with
    | some flag => progress.settle flag argument
    | none => .error .usage

def Progress.run (progress : Progress) : List String → Except Halt Progress
  | [] => .ok progress
  | "--" :: rest => if rest.isEmpty then .ok progress else .error .usage
  | argument :: rest => do (← progress.step argument).run rest

def Arguments.read (arguments : List String) : Except Halt Arguments := do
  let progress ← ({} : Progress).run arguments
  if progress.due.isSome ∨ ¬ progress.seen.contains .storage then .error .usage
  else return progress.arguments

def versionText : String := "storeview 0.1.0"

def helpText : String := "\n".intercalate [
  "storeview - project fields out of a contract storage snapshot",
  "",
  "Usage: storeview [OPTIONS] --storage <STORAGE>",
  "",
  "Options:",
  "      --storage <STORAGE>          Storage snapshot document (JSON)",
  "      --selectors <SELECTORS>      " ++
    "Selector list (JSON); the whole storage is rendered when omitted",
  "      --indexer-url <INDEXER_URL>  " ++
    "Base URL of the indexer serving big map keys [env: STOREVIEW_INDEXER_URL]",
  "      --timeout-ms <TIMEOUT_MS>    " ++
    "Indexer request timeout in milliseconds [env: STOREVIEW_INDEXER_TIMEOUT_MS]",
  "      --retries <RETRIES>          " ++
    "Extra attempts after the indexer answers 502 [env: STOREVIEW_INDEXER_RETRIES]",
  "      --big-int <BIG_INT>          " ++
    "Big integers beyond 64 bits: lossy, strict or string [default: lossy]",
  "      --pretty                     Pretty-print the output",
  "      --log-level <LOG_LEVEL>      Log filter used when RUST_LOG is not set [default: info]",
  "  -h, --help                       Print help",
  "  -V, --version                    Print version"]

structure Exit where
  code : Nat
  output : String
  error : Option String

def Invocation.ofArguments (arguments : Arguments) (settings : Indexer.Settings) : Invocation where
  storage := arguments.storage
  selectors := arguments.selectors
  settings := arguments.overrides.apply settings
  policy := arguments.policy
  pretty := arguments.pretty

/-- The whole command: arguments first, then the variables, then the run. -/
def main (environment : String → Option String) (files : Files) (network : Indexer.Network)
    (arguments : List String) : Exit :=
  match Arguments.read arguments with
  | .error .usage => ⟨2, "", none⟩
  | .error .help => ⟨0, helpText ++ "\n", none⟩
  | .error .version => ⟨0, versionText ++ "\n", none⟩
  | .ok arguments =>
    match Indexer.Settings.ofVariables environment with
    | .error e => ⟨1, "", some s!"Error: {e.message}"⟩
    | .ok settings =>
      match run files network (.ofArguments arguments settings) with
      | .error e => ⟨1, "", some s!"Error: {e.message}"⟩
      | .ok text => ⟨0, text ++ "\n", none⟩

end StorageQuery.Command
