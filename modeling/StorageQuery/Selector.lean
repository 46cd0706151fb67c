import StorageQuery.Key
import StorageQuery.Path
import StorageQuery.Json.Reader
/-!
Selectors: what a caller asks of a storage. A path reads a field; a selector by keys looks keys up in
the map of a field, and may go on selecting from each value found.

On the wire a selector is a text or an object that names one field. Blank items, the empty text and
the empty object, ask for nothing and are left out while reading.
-/

set_option autoImplicit false

namespace StorageQuery

mutual
inductive Selector where
  | path (path : Path)
  | keys (name : String) (requests : List Request)
  deriving Repr
inductive Request where
  | whole (key : Key)
  | within (key : Key) (selectors : List Selector)
  deriving Repr
end

def Request.key : Request → Key
  | .whole key => key
  | .within key _ => key

def Request.selectors? : Request → Option (List Selector)
  | .whole _ => none
  | .within _ selectors => some selectors

def Request.make (key : Key) : Option (List Selector) → Request
  | none => .whole key
  | some selectors => .within key selectors

namespace Selector

def ofText (text : String) : Selector := .path ⟨text⟩

def name : Selector → String
  | .path p => p.text
  | .keys name _ => name

def isBlank : Selector → Bool
  | .path p => p.isEmpty
  | .keys _ _ => false

/-- A selector on the wire: a path, or fields with the keys to look up in each. -/
inductive Wire where
  | path (text : String)
  | fields (named : List (String × List Request))

/-- A wire form names one field at most; one that names none is blank. -/
def Wire.resolve : Wire → Except ShapeFault (Option Selector)
  | .path text => .ok (if text = "" then none else some (ofText text))
  | .fields [] => .ok none
  | .fields [(name, requests)] => .ok (some (.keys name requests))
  | .fields named => .error (.severalNames named.length)

structure Draft where
  key : Option Key := none
  nested : Option (Option (List Selector)) := none

def Draft.finish (draft : Draft) : Option Request :=
  draft.key.map fun key => Request.make key (draft.nested.getD none)

section
variable (resolve : Wire → Except ShapeFault (Option Selector))

def Wire.resolveAll : List Wire → Except ShapeFault (List Selector)
  | [] => .ok []
  | wire :: rest => do
    let selector ← resolve wire
    return selector.toList ++ (← resolveAll rest)

mutual
def wire? : Json → Option Wire
  | .string text => some (.path text)
  | .object members => (fields? members).map fun named => .fields (Table.ofList (· == ·) named)
  | _ => none
def fields? : List (String × Json) → Option (List (String × List Request))
  | [] => some []
  | (name, json) :: rest => do
    let requests ← requestList? json
    return (name, requests) :: (← fields? rest)
def requestList? : Json → Option (List Request)
  | .array items => requests? items
  | _ => none
def requests? : List Json → Option (List Request)
  | [] => some []
  | item :: rest => do
    let request ← request? item
    return request :: (← requests? rest)
/-- A request names its key and, if it goes on, its data fields; a list gives them in this order. -/
def request? : Json → Option Request
  | .object members => (draft? members).bind Draft.finish
  | .array [key] => (Key.decode? key).map .whole
  | .array [key, nested] => do
    let key ← Key.decode? key
    return Request.make key (← nested? nested)
  | _ => none
/-- Members of other names, and a second one of the same name, are refused. -/
def draft? : List (String × Json) → Option Draft
  | [] => some {}
  | (name, json) :: rest => do
    let draft ← draft? rest
    if name = "key" ∧ draft.key.isNone then return { draft with key := some (← Key.decode? json) }
    else if name = "dataFields" ∧ draft.nested.isNone then
      return { draft with nested := some (← nested? json) }
    else none
def nested? : Json → Option (Option (List Selector))
  | .null => some none
  | .array items => do
    let wires ← wires? items
    (Wire.resolveAll resolve wires).toOption.map some
  | _ => none
def wires? : List Json → Option (List Wire)
  | [] => some []
  | item :: rest => do
    let wire ← wire? item
    return wire :: (← wires? rest)
end

def readWires : List Json → Except ShapeFault (List Wire)
  | [] => .ok []
  | item :: rest =>
    match wire? resolve item with
    | none => .error (.noForm "RawSelector")
    | some wire => (readWires rest).map (wire :: ·)

def readWireList : Json → Except ShapeFault (List Wire)
  | .array items => readWires resolve items
  | json => .error (.wrongType json "a sequence")

/-- The selectors of a document, given what selector a wire form stands for. -/
def ofJsonBy (json : Json) : Except ShapeFault (List Selector) := do
  Wire.resolveAll resolve (← readWireList resolve json)

end

def ofJson (json : Json) : Except ShapeFault (List Selector) := ofJsonBy Wire.resolve json

/-- What a text that breaks off has shown to be no list of selectors by then. -/
def earlyFault? : Reader.Outermost → Option ShapeFault
  | .items done =>
    match readWires Wire.resolve done with
    | .error fault => some fault
    | .ok _ => none
  | .members _ _ => some (.wrongType (.object []) "a sequence")

/-- The selectors of a text. An item without a form is reported before a later fault of the text,
several names in one selector after it. -/
def read (text : String) : Except Json.Fault (List Selector) :=
  match Json.readFirst text with
  | .error stop =>
    match stop.state.outermost?.bind earlyFault? with
    | some fault => .error (.shape fault)
    | none => .error (.text stop.fault)
  | .ok (json, rest) =>
    match readWireList Wire.resolve json with
    | .error fault => .error (.shape fault)
    | .ok wires =>
      if rest.isEmpty then (Wire.resolveAll Wire.resolve wires).mapError .shape else .error (.text .trailingText)

end Selector

end StorageQuery
