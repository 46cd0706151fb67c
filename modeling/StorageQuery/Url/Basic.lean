import StorageQuery.Url.Host
/-!
URLs with their parts, and their text. The path of a URL is a list of segments, unless the URL has
neither host nor slash after its scheme.
-/

set_option autoImplicit false

namespace StorageQuery

structure Credentials where
  username : List Char
  password : List Char
  deriving DecidableEq, Repr

inductive UrlPath where
  /-- Text without a slash at its start; no segment can be added to it. -/
  | rootless (text : List Char)
  | segments (segments : List (List Char))
  deriving DecidableEq, Repr

structure Url where
  scheme : List Char
  credentials : Option Credentials := none
  host : Option Host := none
  port : Option Nat := none
  path : UrlPath
  query : Option (List Char) := none
  fragment : Option (List Char) := none
  deriving DecidableEq, Repr

namespace Url

def defaultPort? (scheme : List Char) : Option Nat :=
  match String.ofList scheme with
  | "http" | "ws" => some 80
  | "https" | "wss" => some 443
  | "ftp" => some 21
  | _ => none

def isFile (scheme : List Char) : Bool := scheme == ['f', 'i', 'l', 'e']

def isSpecial (scheme : List Char) : Bool := isFile scheme || (defaultPort? scheme).isSome

def UrlPath.chars : UrlPath → List Char
  | .rootless text => text
  | .segments segments => segments.flatMap ('/' :: ·)

def Credentials.chars (c : Credentials) : List Char :=
  c.username ++ (if c.password.isEmpty then [] else ':' :: c.password) ++ ['@']

def authorityChars (url : Url) : List Char :=
  match url.host with
  | none => []
  | some host =>
    ['/', '/'] ++ ((url.credentials.map Credentials.chars).getD []) ++ host.chars ++
      (url.port.map fun n => ':' :: Decimal.digits n).getD []

def chars (url : Url) : List Char :=
  let path := UrlPath.chars url.path
  let guard := if url.host.isNone && path.take 2 == ['/', '/'] then ['/', '.'] else []
  url.scheme ++ ':' :: (url.authorityChars ++ guard ++ path ++
    ((url.query.map ('?' :: ·)).getD []) ++ ((url.fragment.map ('#' :: ·)).getD []))

def text (url : Url) : String := String.ofList url.chars

/-- Are they text, when decoded? A name that is left out counts for nothing beside a password that is
none. -/
def Credentials.areText (c : Credentials) : Bool :=
  let isText (cs : List Char) : Bool := (Text.ofUtf8? (Percent.decode cs)).isSome
  isText c.username && (!c.username.isEmpty || isText c.password)

/-- The URL that a request asks for. Credentials travel apart from it, if they are text. -/
def requested (url : Url) : Url :=
  { url with credentials := url.credentials.filter fun c => !Credentials.areText c }

def requestLimit : Nat := 65534

/-- Can a request ask for it? Its scheme is one of the web, and its host holds no quote and no brace. -/
def isRequestable (url : Url) : Bool :=
  ["http", "https"].contains (String.ofList url.scheme) && url.chars.length ≤ requestLimit &&
    !url.host.any fun host => host.chars.any fun c =>
      c == '"' || c.toNat == 0x60 || c == '\x7b' || c == '\x7d'

def isHere (segment : List Char) : Bool :=
  ["." , "%2e"].contains (String.ofList (segment.map Char.toLower))

def isAbove (segment : List Char) : Bool :=
  ["..", ".%2e", "%2e.", "%2e%2e"].contains (String.ofList (segment.map Char.toLower))

def isDrive : List Char → Bool
  | [letter, mark] => letter.isAlpha && (mark == ':' || mark == '|')
  | _ => false

/-- One more segment. Dots are followed at once; as the last segment they leave an empty one. No dots
lead out of a drive. -/
def addSegment (done : List (List Char)) (segment : List Char) (last : Bool) : List (List Char) :=
  let after := if last then [[]] else []
  if isAbove segment then (if done.getLast?.any isDrive then done else done.dropLast) ++ after
  else if isHere segment then done ++ after
  else done ++ [segment]

def addSegments (done : List (List Char)) : List (List Char) → List (List Char)
  | [] => done
  | [last] => addSegment done last true
  | segment :: rest => addSegments (addSegment done segment false) rest

/-- Tabs and line ends are no part of a URL. -/
def isDropped (c : Char) : Bool := c == '\t' || c == '\n' || c == '\r'

def popIfEmpty (segments : List (List Char)) : List (List Char) :=
  if 1 < segments.length ∧ segments.getLast? = some [] then segments.dropLast else segments

/-- A text put behind a path as one segment, its slashes and percent signs encoded. A text of one or
two dots is passed over. -/
def push (special : Bool) (segments : List (List Char)) (text : List Char) : List (List Char) :=
  if text = ['.'] ∨ text = ['.', '.'] then segments
  else
    let set := if special then Percent.specialSegment else Percent.segment
    let done := if segments = [[]] then [] else segments
    addSegment done (Percent.encode set (text.filter fun c => !isDropped c)) true

/-- The URL with more segments behind its path; there is none for a rootless path. -/
def extend? (url : Url) (texts : List (List Char)) : Option Url :=
  match url.path with
  | .rootless _ => none
  | .segments segments =>
    some { url with path := .segments (texts.foldl (push (isSpecial url.scheme)) (popIfEmpty segments)) }

end Url

end StorageQuery
