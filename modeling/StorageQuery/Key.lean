import StorageQuery.Json.Printer
import StorageQuery.Json.Shape
/-!
Keys of maps: a scalar, or a record of keys. Two scalars are the same key if their texts are equal,
whatever their kinds; two records are, if they have the same names with the same key under each.
-/

set_option autoImplicit false

namespace StorageQuery

inductive Key where
  | bool (b : Bool)
  | number (n : Number)
  | string (s : String)
  | composite (fields : List (String × Key))
  deriving Repr, Inhabited

namespace Key

def isComposite : Key → Bool
  | .composite _ => true
  | _ => false

/-- Names in increasing order of code points. -/
def sortByName {α : Type} (fields : List (String × α)) : List (String × α) :=
  fields.mergeSort fun a b => decide (a.1 ≤ b.1)

mutual
/-- The text by which scalars are compared. For a record, the texts of its fields by sorted name, as
the text of a document. -/
def canonical : Key → String
  | .bool b => if b then "true" else "false"
  | .number n => n.text
  | .string s => s
  | .composite fields => Json.text (.object (sortByName (canonicalFields fields)))
def canonicalFields : List (String × Key) → List (String × Json)
  | [] => []
  | (name, key) :: rest => (name, .string key.canonical) :: canonicalFields rest
end

mutual
def toJson : Key → Json
  | .bool b => .bool b
  | .number n => .number n
  | .string s => .string s
  | .composite fields => .object (toMembers fields)
def toMembers : List (String × Key) → List (String × Json)
  | [] => []
  | (name, key) :: rest => (name, key.toJson) :: toMembers rest
end

mutual
/-- No key is null or a list, nor holds one in a field. -/
def ofJson? : Json → Option Key
  | .bool b => some (.bool b)
  | .number n => some (.number n)
  | .string s => some (.string s)
  | .object members => (ofMembers? members).map fun fields => .composite (Table.ofList (· == ·) fields)
  | _ => none
def ofMembers? : List (String × Json) → Option (List (String × Key))
  | [] => some []
  | (name, json) :: rest =>
    match ofJson? json, ofMembers? rest with
    | some key, some fields => some ((name, key) :: fields)
    | _, _ => none
end

def ofFields (fields : List (String × Key)) : Key := .composite (Table.ofList (· == ·) fields)

def ofBool? : Json → Option Key
  | .bool b => some (.bool b)
  | _ => none

def ofNumber? : Json → Option Key
  | .number n => some (.number n)
  | _ => none

def ofString? : Json → Option Key
  | .string s => some (.string s)
  | _ => none

/-- The first of the forms of a key that a document has. It has the last one if it is an object whose
members are keys, which are given here if they are. -/
def firstForm? (json : Json) (fields : Option (List (String × Key))) : Option Key :=
  (ofBool? json).or ((ofNumber? json).or ((ofString? json).or (fields.map ofFields)))

mutual
/-- Decodes a key form by form. -/
def decode? : Json → Option Key
  | .object members => firstForm? (.object members) (decodeMembers? members)
  | json => firstForm? json none
def decodeMembers? : List (String × Json) → Option (List (String × Key))
  | [] => some []
  | (name, json) :: rest => do
    let key ← decode? json
    return (name, key) :: (← decodeMembers? rest)
end

def ofShape (json : Json) : Except ShapeFault Key :=
  match decode? json with
  | some key => .ok key
  | none => .error (.noForm "MapKey")

/-- The text of the key as a document, fields as declared. -/
def display (key : Key) : String := key.toJson.text

mutual
def chars : Key → List Char
  | .bool b => if b then ['t', 'r', 'u', 'e'] else ['f', 'a', 'l', 's', 'e']
  | .number n => n.chars
  | .string s => Json.quoted s
  | .composite fields => '\x7b' :: (fieldChars true fields ++ ['\x7d'])
def fieldChars (first : Bool) : List (String × Key) → List Char
  | [] => []
  | (name, key) :: rest =>
    (if first then [] else [',']) ++ (Json.quoted name ++ ':' :: (key.chars ++ fieldChars false rest))
end

def encoded (key : Key) : String := String.ofList key.chars

def requestText (key : Key) : String := if key.isComposite then key.encoded else key.canonical

theorem sizeOf_lt_of_find? {name : String} {fields : List (String × Key)} {key : Key}
    (h : Table.find? (· == ·) name fields = some key) : sizeOf key < sizeOf fields := by
  obtain ⟨name', -, hm⟩ := Table.mem_of_find? h
  have hlt := List.sizeOf_lt_of_mem hm
  rw [Prod.mk.sizeOf_spec] at hlt
  omega

mutual
/-- Is it the same key? In a record the field of the other one is asked whether it is the same. -/
def same : Key → Key → Bool
  | .composite as, .composite bs => as.length == bs.length && sameFields as bs
  | .composite _, _ => false
  | .bool a, b => !b.isComposite && (Key.bool a).canonical == b.canonical
  | .number a, b => !b.isComposite && (Key.number a).canonical == b.canonical
  | .string a, b => !b.isComposite && (Key.string a).canonical == b.canonical
termination_by a b => sizeOf a + sizeOf b
decreasing_by
  simp only [composite.sizeOf_spec]
  omega
def sameFields : List (String × Key) → List (String × Key) → Bool
  | [], _ => true
  | (name, a) :: rest, fields =>
    (match _found : Table.find? (· == ·) name fields with
      | some b => same b a
      | none => false) && sameFields rest fields
termination_by as bs => sizeOf as + sizeOf bs
decreasing_by
  · have := sizeOf_lt_of_find? _found
    simp only [List.cons.sizeOf_spec, Prod.mk.sizeOf_spec]
    omega
  · simp only [List.cons.sizeOf_spec, Prod.mk.sizeOf_spec]
    omega
end

inductive Feed where
  | mark (composite : Bool)
  | text (s : String)
  deriving DecidableEq, Repr

mutual
/-- The feeds of a key in order: for a record, its fields by sorted name. -/
def feeds : Key → List Feed
  | .composite fields =>
    .mark true :: (sortByName (feedsOfFields fields)).flatMap fun (name, feeds) => .text name :: feeds
  | key => [.mark false, .text key.canonical]
def feedsOfFields : List (String × Key) → List (String × List Feed)
  | [] => []
  | (name, key) :: rest => (name, key.feeds) :: feedsOfFields rest
end

mutual
def WellFormed : Key → Prop
  | .composite fields => Table.Distinct (· == ·) fields ∧ WellFormedFields fields
  | _ => True
def WellFormedFields : List (String × Key) → Prop
  | [] => True
  | (_, key) :: rest => WellFormed key ∧ WellFormedFields rest
end

end Key

end StorageQuery
