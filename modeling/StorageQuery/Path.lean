import StorageQuery.Json.Shape
import StorageQuery.Text.Split
/-!
Paths into nested objects and lists: names with dots between them. The empty text is the path
without a component.
-/

set_option autoImplicit false

namespace StorageQuery

structure Path where
  text : String
  deriving DecidableEq, Repr

namespace Path

def components (path : Path) : List String :=
  if path.text = "" then [] else (Text.split '.' path.text.toList).map String.ofList

def isEmpty (path : Path) : Bool := path.components.isEmpty

def index? (component : String) : Option Nat := Decimal.readBelow? UInt64.size component.toList

def ofJson : Json → Except ShapeFault Path
  | .string s => .ok ⟨s⟩
  | json => .error (.wrongType json "a string")

end Path

end StorageQuery
