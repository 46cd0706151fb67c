import StorageQuery.Key
import StorageQuery.Path
/-!
Storage trees. Objects and lists are entered by path; maps are entered by key only. A big map is
known by its pointer, and its entries are kept elsewhere.
-/

set_option autoImplicit false

namespace StorageQuery

structure BigMap where
  pointer : String
  size : Option UInt64 := none
  deriving DecidableEq, Repr

def BigMap.describe (handle : BigMap) : String :=
  let size := match handle.size with
    | some size => s!"Some({size})"
    | none => "None"
  s!"BigMap \x7b pointer: {Text.literal handle.pointer}, size: {size} \x7d"

inductive Storage where
  | null
  | bool (b : Bool)
  | number (n : Number)
  | bigInt (n : Int)
  | string (s : String)
  | bytes (bytes : List UInt8)
  | array (items : List Storage)
  | object (fields : List (String × Storage))
  | map (entries : List (Key × Storage))
  | bigMap (handle : BigMap)
  deriving Repr, Inhabited

namespace Storage

def kind : Storage → String
  | .null => "null"
  | .bool _ => "bool"
  | .number _ => "number"
  | .bigInt _ => "big_int"
  | .string _ => "string"
  | .bytes _ => "bytes"
  | .array _ => "array"
  | .object _ => "object"
  | .map _ => "map"
  | .bigMap _ => "big_map"

def isNull : Storage → Bool
  | .null => true
  | _ => false

def isContainer : Storage → Bool
  | .map _ | .bigMap _ => true
  | _ => false

theorem isContainer_eq_true_iff {value : Storage} :
    value.isContainer = true ↔ (∃ entries, value = .map entries) ∨ ∃ handle, value = .bigMap handle := by
  cases value <;> simp [isContainer]

def field? (name : String) : Storage → Option Storage
  | .object fields => Table.find? (· == ·) name fields
  | _ => none

def child? (component : String) : Storage → Option Storage
  | .object fields => Table.find? (· == ·) component fields
  | .array items => (Path.index? component).bind fun i => items[i]?
  | _ => none

def descend? (value : Storage) : List String → Option Storage
  | [] => some value
  | component :: rest => (value.child? component).bind fun next => next.descend? rest

/-- The value at a path. A field named by the whole of a path with dots comes first. -/
def get? (value : Storage) (path : Path) : Option Storage :=
  let direct := if 1 < path.components.length then value.field? path.text else none
  match direct with
  | some found => some found
  | none => value.descend? path.components

mutual
/-- Equality of storages. The order of fields does not matter, that of entries does, and big maps
are equal by their pointers. -/
def same : Storage → Storage → Bool
  | .null, .null => true
  | .bool a, .bool b => a == b
  | .number a, .number b => a.same b
  | .bigInt a, .bigInt b => a == b
  | .string a, .string b => a == b
  | .bytes a, .bytes b => a == b
  | .array as, .array bs => sameItems as bs
  | .object as, .object bs => as.length == bs.length && sameFields as bs
  | .map as, .map bs => sameEntries as bs
  | .bigMap a, .bigMap b => a.pointer == b.pointer
  | _, _ => false
termination_by structural value => value
def sameItems : List Storage → List Storage → Bool
  | [], [] => true
  | a :: as, b :: bs => same a b && sameItems as bs
  | _, _ => false
termination_by structural items => items
def sameFields : List (String × Storage) → List (String × Storage) → Bool
  | [], _ => true
  | (name, a) :: rest, fields =>
    (match Table.find? (· == ·) name fields with
      | some b => same a b
      | none => false) && sameFields rest fields
termination_by structural fields => fields
def sameEntries : List (Key × Storage) → List (Key × Storage) → Bool
  | [], [] => true
  | (k, a) :: as, (l, b) :: bs => k.same l && same a b && sameEntries as bs
  | _, _ => false
termination_by structural entries => entries
end

mutual
/-- Names of an object are different, and so are keys of a map, at every depth. -/
def WellFormed : Storage → Prop
  | .array items => WellFormedItems items
  | .object fields => Table.Distinct (· == ·) fields ∧ WellFormedFields fields
  | .map entries => Table.Distinct Key.same entries ∧ WellFormedEntries entries
  | _ => True
def WellFormedItems : List Storage → Prop
  | [] => True
  | item :: rest => WellFormed item ∧ WellFormedItems rest
def WellFormedFields : List (String × Storage) → Prop
  | [] => True
  | (_, value) :: rest => WellFormed value ∧ WellFormedFields rest
def WellFormedEntries : List (Key × Storage) → Prop
  | [] => True
  | (key, value) :: rest => key.WellFormed ∧ WellFormed value ∧ WellFormedEntries rest
end

theorem wellFormedItems_iff {items : List Storage} :
    WellFormedItems items ↔ ∀ item ∈ items, item.WellFormed := by
  induction items with
  | nil => simp [WellFormedItems]
  | cons item rest ih => simp [WellFormedItems, ih]

theorem wellFormedFields_iff {fields : List (String × Storage)} :
    WellFormedFields fields ↔ ∀ field ∈ fields, field.2.WellFormed := by
  induction fields with
  | nil => simp [WellFormedFields]
  | cons field rest ih => obtain ⟨name, value⟩ := field; simp [WellFormedFields, ih]

theorem wellFormedEntries_iff {entries : List (Key × Storage)} :
    WellFormedEntries entries ↔ ∀ entry ∈ entries, entry.1.WellFormed ∧ entry.2.WellFormed := by
  induction entries with
  | nil => simp [WellFormedEntries]
  | cons entry rest ih => obtain ⟨key, value⟩ := entry; simp [WellFormedEntries, ih, and_assoc]

def ofFields (fields : List (String × Storage)) : Storage := .object (Table.ofList (· == ·) fields)

def ofEntries (entries : List (Key × Storage)) : Storage := .map (Table.ofList Key.same entries)

end Storage

end StorageQuery
