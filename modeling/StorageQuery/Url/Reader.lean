import StorageQuery.Url.Basic
set_option autoImplicit false

namespace StorageQuery.Url

def readScheme? (cs : List Char) : Option (List Char × List Char) :=
  let scheme := cs.takeWhile fun c => c.isAlphanum || c == '+' || c == '-' || c == '.'
  match scheme, cs.drop scheme.length with
  | c :: _, ':' :: rest => if c.isAlpha then some (scheme.map Char.toLower, rest) else none
  | _, _ => none

def isSlash (special : Bool) (c : Char) : Bool := c == '/' || (special && c == '\\')

def endsAuthority (special : Bool) (c : Char) : Bool := isSlash special c || c == '?' || c == '#'

def cut (mark : Char) (cs : List Char) : List Char × Option (List Char) :=
  let before := cs.takeWhile (· ≠ mark)
  (before, if before.length < cs.length then some (cs.drop (before.length + 1)) else none)

/-- Name and password before the last at sign; a first at sign leaves both out. -/
def readCredentials (cs : List Char) : Option Credentials :=
  let (username, password) := cut ':' cs
  let password := password.getD []
  if username.isEmpty && password.isEmpty then none
  else some ⟨Percent.encode Percent.userinfo username, Percent.encode Percent.userinfo password⟩

def spanHost (inside : Bool) : List Char → List Char × List Char
  | [] => ([], [])
  | c :: cs =>
    if c = ':' ∧ !inside then ([], c :: cs)
    else
      let (host, rest) := spanHost (if c = '[' then true else if c = ']' then false else inside) cs
      (c :: host, rest)

/-- A port below two to the sixteenth; no digits stand for no port, and so do those of the port that
the scheme has anyway. -/
def readPort (scheme cs : List Char) : Except UrlFault (Option Nat) :=
  if cs.isEmpty then .ok none
  else
    match Decimal.readDigits? cs with
    | none => .error .invalidPort
    | some n =>
      if 65535 < n then .error .invalidPort
      else .ok (if defaultPort? scheme = some n then none else some n)

/-- Host and port, after the credentials, and what is left: a backslash ends a port. -/
def readHostAndPort (scheme cs : List Char) : Except UrlFault (Host × Option Nat × List Char) := do
  let (host, rest) := spanHost false cs
  if host.isEmpty ∧ (isSpecial scheme ∨ ¬ rest.isEmpty) then .error .emptyHost
  else
    let host ← if isSpecial scheme then Host.read host else Host.readPlain host
    let digits := (rest.drop 1).takeWhile (· ≠ '\\')
    return (host, ← readPort scheme digits, rest.drop (digits.length + 1))

def splitPath (special : Bool) (cs : List Char) : List (List Char) :=
  let cs := match cs with
    | c :: rest => if isSlash special c then rest else c :: rest
    | [] => []
  (Text.split '/' (if special then cs.map fun c => if c = '\\' then '/' else c else cs)).map
    (Percent.encode Percent.path)

def readPath (special : Bool) (cs : List Char) : List (List Char) := addSegments [] (splitPath special cs)

def splitTail (cs : List Char) : List Char × Option (List Char) × Option (List Char) :=
  let (rest, fragment) := cut '#' cs
  let (path, query) := cut '?' rest
  (path, query, fragment)

def encodeQuery (scheme : List Char) (cs : List Char) : List Char :=
  Percent.encode (if isSpecial scheme then Percent.specialQuery else Percent.query) cs

def readWithAuthority (scheme cs : List Char) : Except UrlFault Url := do
  let special := isSpecial scheme
  let authority := cs.takeWhile fun c => !endsAuthority special c
  let (path, query, fragment) := splitTail (cs.drop authority.length)
  let after := (authority.reverse.takeWhile (· ≠ '@')).reverse
  let before := authority.take (authority.length - after.length - 1)
  let named := after.length < authority.length
  if named ∧ before.isEmpty ∧ after.isEmpty ∧ authority.length < cs.length then .error .emptyHost
  else
    let credentials := if named then readCredentials before else none
    let (host, port, left) ← readHostAndPort scheme after
    let path := left ++ path
    if host = .domain [] ∧ credentials.isSome then .error .emptyHost
    else
      let segments :=
        if path.isEmpty then (if special then [[]] else []) else readPath special path
      return {
        scheme, credentials, host := some host, port
        path := .segments segments
        query := query.map (encodeQuery scheme)
        fragment := fragment.map (Percent.encode Percent.fragment) }

/-- The segments of a path to a file. A drive at its start is written with a colon, and a segment by
itself; empty segments before all others are left out. -/
def readFilePath (cs : List Char) : List (List Char) :=
  let segments := match splitPath true cs with
    | [letter, mark] :: rest =>
      (if isDrive [letter, mark] then [letter, ':'] else [letter, mark]) :: rest
    | (letter :: ':' :: c :: cs) :: rest =>
      if isDrive [letter, ':'] then [letter, ':'] :: (c :: cs) :: rest
      else (letter :: ':' :: c :: cs) :: rest
    | segments => segments
  match (addSegments [] segments).dropWhile List.isEmpty with
  | [] => [[]]
  | kept => kept

/-- A URL of a local file: a host may follow two slashes. A drive is no host, and it has none. -/
def readFile (scheme cs : List Char) : Except UrlFault Url := do
  let slashes := (cs.takeWhile (isSlash true)).length
  let rest := if 2 ≤ slashes then cs.drop 2 else cs
  let span := if 2 ≤ slashes then rest.takeWhile fun c => !endsAuthority true c else []
  let authority := if isDrive span then [] else span
  let (path, query, fragment) := splitTail (rest.drop authority.length)
  let host ← if authority.isEmpty then .ok (.domain []) else Host.read authority
  let segments := readFilePath path
  let isHere := host = .domain ['l', 'o', 'c', 'a', 'l', 'h', 'o', 's', 't'] ∨ segments.head?.any isDrive
  return {
    scheme
    host := some (if isHere then .domain [] else host)
    path := .segments segments
    query := query.map (encodeQuery scheme)
    fragment := fragment.map (Percent.encode Percent.fragment) }

def readWithoutAuthority (scheme cs : List Char) : Url :=
  let (path, query, fragment) := splitTail cs
  { scheme
    path := match path with
      | '/' :: rest => .segments (readPath false ('/' :: rest))
      | text => .rootless (Percent.encode Percent.controls text)
    query := query.map (encodeQuery scheme)
    fragment := fragment.map (Percent.encode Percent.fragment) }

def strip (cs : List Char) : List Char :=
  ((cs.dropWhile (·.toNat ≤ 32)).reverse.dropWhile (·.toNat ≤ 32)).reverse

def read (text : String) : Except UrlFault Url :=
  match readScheme? ((strip text.toList).filter fun c => !isDropped c) with
  | none => .error .relative
  | some (scheme, rest) =>
    if isFile scheme then readFile scheme rest
    else if isSpecial scheme then readWithAuthority scheme (rest.dropWhile (isSlash true))
    else
      match rest with
      | '/' :: '/' :: rest => readWithAuthority scheme rest
      | rest => .ok (readWithoutAuthority scheme rest)

end StorageQuery.Url
