import StorageQuery.Storage.Basic
import StorageQuery.Storage.Error
import StorageQuery.Text.Utf8
/-!
Snapshots: documents that stand for storages. An object with one member, named by a tag, stands for
what a document has no form of its own for: a map, a big map, a big integer, or bytes.
-/

set_option autoImplicit false

namespace StorageQuery

inductive Tag where
  | map
  | bigMap
  | int
  | bytes
  deriving DecidableEq, Repr

def Tag.name : Tag → String
  | .map => "$map"
  | .bigMap => "$big_map"
  | .int => "$int"
  | .bytes => "$bytes"

def Tag.ofName? (name : String) : Option Tag :=
  [Tag.map, .bigMap, .int, .bytes].find? fun tag => tag.name == name

/-- Which big map a pointer leads to, told by the pointer under which that map is known. -/
abbrev Resolver := String → Except StorageError String

namespace Storage

private def refuse {α : Type} (fault : SnapshotFault) : Except StorageError α := .error (.snapshot fault)

def ofInt (body : Json) : Except StorageError Storage :=
  let read (text : String) :=
    match Decimal.readInt text.toList with
    | .ok n => .ok (.bigInt n)
    | .error fault => refuse (.invalidInteger text fault)
  match body with
  | .string text => read text
  | .number n => read n.text
  | _ => refuse .notAnInteger

def ofBytes : Json → Except StorageError Storage
  | .string text =>
    match Hex.readBytes (Text.utf8 text.toList) with
    | .ok found => .ok (.bytes found)
    | .error fault => refuse (.invalidBytes text fault)
  | _ => refuse .notBytes

/-- A pointer is a text or a number; an object may give the number of entries beside it. -/
def readPointer : Json → Except StorageError BigMap
  | .string pointer => .ok { pointer }
  | .number n => .ok { pointer := n.text }
  | .object members =>
    let size := match Table.find? (· == ·) "size" members with
      | some (.number n) => n.toUInt64?
      | _ => none
    match Table.find? (· == ·) "id" members with
    | some (.string pointer) => .ok { pointer, size }
    | some (.number n) => .ok { pointer := n.text, size }
    | _ => refuse .noPointer
  | _ => refuse .notAPointer

def ofPointer (resolver : Option Resolver) (body : Json) : Except StorageError Storage := do
  let handle ← readPointer body
  match resolver with
  | none => refuse (.noResolver handle.pointer)
  | some resolve => return .bigMap { handle with pointer := ← resolve handle.pointer }

def entryKey (members : List (String × Json)) : Except StorageError Key :=
  match (Table.find? (· == ·) "key" members).bind Key.ofJson? with
  | some key => .ok key
  | none => refuse .entryWithoutKey

mutual
/-- The storage that a document stands for, or the first thing in it that stands for none. -/
def ofDocument (resolver : Option Resolver) : Json → Except StorageError Storage
  | .null => .ok .null
  | .bool b => .ok (.bool b)
  | .number n => .ok (.number n)
  | .string s => .ok (.string s)
  | .array items => (ofItems resolver items).map .array
  | .object [(name, body)] =>
    match Tag.ofName? name with
    | some .map => (ofMapBody resolver body).map ofEntries
    | some .bigMap => ofPointer resolver body
    | some .int => ofInt body
    | some .bytes => ofBytes body
    | none => (ofDocument resolver body).map fun value => .object [(name, value)]
  | .object members => (ofMembers resolver members).map .object
def ofItems (resolver : Option Resolver) : List Json → Except StorageError (List Storage)
  | [] => .ok []
  | item :: rest => do
    let value ← ofDocument resolver item
    return value :: (← ofItems resolver rest)
def ofMembers (resolver : Option Resolver) :
    List (String × Json) → Except StorageError (List (String × Storage))
  | [] => .ok []
  | (name, member) :: rest => do
    let value ← ofDocument resolver member
    return (name, value) :: (← ofMembers resolver rest)
def ofMapBody (resolver : Option Resolver) : Json → Except StorageError (List (Key × Storage))
  | .array items => entriesOf resolver items
  | _ => refuse .mapNotList
def entriesOf (resolver : Option Resolver) : List Json → Except StorageError (List (Key × Storage))
  | [] => .ok []
  | item :: rest => do
    let entry ← entryOf resolver item
    return entry :: (← entriesOf resolver rest)
/-- The shape comes first, then the key, then the value. -/
def entryOf (resolver : Option Resolver) : Json → Except StorageError (Key × Storage)
  | .object members => do
    let key ← entryKey members
    return (key, ← entryValue resolver members)
  | _ => refuse .entryNotObject
def entryValue (resolver : Option Resolver) : List (String × Json) → Except StorageError Storage
  | [] => .ok .null
  | (name, value) :: rest =>
    if name == "value" then ofDocument resolver value else entryValue resolver rest
end

end Storage

end StorageQuery
