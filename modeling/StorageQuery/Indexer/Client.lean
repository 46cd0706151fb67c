import StorageQuery.Answer.Evaluation
import StorageQuery.Indexer.Record
import StorageQuery.Indexer.Settings
import StorageQuery.Storage.Snapshot
/-!
Look-ups at an indexer. An entry of a big map has a URL of its own below the base, with the pointer
and the key as segments of its path. A bad gateway is asked again, as often as the settings say; any
other response settles the look-up.
-/

set_option autoImplicit false

namespace StorageQuery.Indexer

inductive Response where
  | answer (status : Nat) (body : List UInt8)
  | dropped
  | timedOut

/-- For each URL, what the first request and those after it meet with. -/
abbrev Network := String → Nat → Response

def Network.unreachable : Network := fun _ _ => .dropped

structure Client where
  base : Url
  retries : Nat

structure Fetched (α : Type) where
  result : α
  requests : Nat

namespace Client

def ofSettings (settings : Settings) : Except IndexerError Client :=
  match Url.read settings.baseUrl with
  | .error fault => .error (.unreadableUrl fault)
  | .ok base =>
    match base.path with
    | .rootless _ => .error (.unusableUrl s!"{settings.baseUrl} cannot carry a path")
    | .segments _ => .ok ⟨base, settings.retries⟩

def entrySegments (pointer : String) (key : Key) : List (List Char) :=
  ["v1".toList, "bigmaps".toList, pointer.toList, "keys".toList, key.requestText.toList]

def entryUrl (client : Client) (pointer : String) (key : Key) : Except IndexerError Url :=
  match client.base.extend? (entrySegments pointer key) with
  | some url => .ok url
  | none => .error (.unusableUrl s!"{client.base.text} cannot carry a path")

def sendFailure (url : Url) : String :=
  let requested := url.requested
  let reason := if requested.isRequestable then "error sending request" else "builder error"
  s!"{reason} for url ({requested.text})"

/-- A record that is no longer active counts as absent, and so does a body without one. -/
def readEntry (body : List UInt8) : Except IndexerError (Option Json) :=
  if body.all Text.isBlankByte then .ok none
  else
    match Record.readBody body with
    | .error fault => .error (.json fault)
    | .ok record => .ok ((record.filter (·.active)).map (·.value))

def settle (url : Url) : Response → Except IndexerError (Option Json)
  | .dropped => .error (.noResponse false (sendFailure url))
  | .timedOut => .error (.noResponse true (sendFailure url))
  | .answer status body =>
    if status = 200 then readEntry body
    else if status = 204 ∨ status = 404 then .ok none
    else .error (.status status url.text)

def Response.isBadGateway : Response → Bool
  | .answer status _ => status == 502
  | _ => false

/-- Makes a request, and as many more as `retries` says while the gateway is bad. -/
def request (url : Url) (responses : Nat → Response) :
    (retries sent : Nat) → Fetched (Except IndexerError (Option Json))
  | 0, sent => ⟨settle url (responses sent), sent + 1⟩
  | retries + 1, sent =>
    if Response.isBadGateway (responses sent) then request url responses retries (sent + 1)
    else ⟨settle url (responses sent), sent + 1⟩

def fetch (client : Client) (network : Network) (pointer : String) (key : Key) :
    Fetched (Except IndexerError (Option Json)) :=
  match client.entryUrl pointer key with
  | .error e => ⟨.error e, 0⟩
  | .ok url => request url (network url.text) client.retries 0

/-- The value under a key. No big map stands inside of it. -/
def lookup (client : Client) (network : Network) (pointer : String) (key : Key) :
    Fetched (Except StorageError (Option Storage)) :=
  let fetched := client.fetch network pointer key
  let result := match fetched.result with
    | .error e => .error e.toStorageError
    | .ok none => .ok none
    | .ok (some json) => (Storage.ofDocument none json).map some
  ⟨result, fetched.requests⟩

/-- Big maps whose entries the indexer keeps; each request takes one step of time. -/
def remote (client : Client) (network : Network) : Remote := fun pointer key =>
  let fetched := client.lookup network pointer key
  ⟨fetched.requests, fetched.result⟩

end Client

/-- Every pointer leads to the big map that the indexer keeps under it. -/
def resolver : Resolver := .ok

end StorageQuery.Indexer
