import StorageQuery.Command.Arguments
set_option autoImplicit false

open StorageQuery.Command

def loadFile (path : String) : IO (Except FileFault String) := do
  try
    let bytes ← IO.FS.readBinFile path
    match String.fromUTF8? bytes with
    | some text => return .ok text
    | none => return .error .notText
  catch
    | .inappropriateType _ code _ => return .error (if code = 21 then .directory else .notDirectory)
    | .permissionDenied .. => return .error .denied
    | .invalidArgument .. => return .error .nameTooLong
    | _ => return .error .missing

def main (arguments : List String) : IO UInt32 := do
  let mut contents : List (String × Except FileFault String) := []
  if let .ok parsed := Arguments.read arguments then
    for path in parsed.storage :: parsed.selectors.toList do
      contents := (path, ← loadFile path) :: contents
  let mut environment : List (String × String) := []
  for name in [StorageQuery.Indexer.urlVariable, StorageQuery.Indexer.timeoutVariable,
      StorageQuery.Indexer.retriesVariable] do
    if let some value ← IO.getEnv name then environment := (name, value) :: environment
  let files : Files := fun path => (contents.lookup path).getD (.error .missing)
  let valueOf (name : String) : Option String := environment.lookup name
  let exit := StorageQuery.Command.main valueOf files .unreachable arguments
  IO.print exit.output
  if let some line := exit.error then IO.eprintln line
  return UInt32.ofNat exit.code
