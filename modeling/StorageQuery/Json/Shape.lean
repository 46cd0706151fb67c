import StorageQuery.Json.Basic
import StorageQuery.Json.Fault
import StorageQuery.Text.Literal
set_option autoImplicit false

namespace StorageQuery

/-- The kind of a document, with its value where that is short. -/
def Json.described : Json → String
  | .null => "null"
  | .bool b => s!"boolean `{b}`"
  | .number (.integer n h) => s!"integer `{Number.text (.integer n h)}`"
  | .number (.real x) => s!"floating point `{Number.text (.real x)}`"
  | .string s => "string " ++ Text.literal s
  | .array _ => "sequence"
  | .object _ => "map"

inductive ShapeFault where
  | wrongType (found : Json) (expected : String)
  | noForm (choice : String)
  | repeatedField (name : String)
  | tooManyItems (count : Nat)
  | severalNames (count : Nat)

def ShapeFault.message : ShapeFault → String
  | .wrongType found expected => s!"invalid type: {found.described}, expected {expected}"
  | .noForm choice => s!"data did not match any variant of untagged enum {choice}"
  | .repeatedField name => s!"duplicate field `{name}`"
  | .tooManyItems count => s!"invalid length {count}, expected fewer elements in array"
  | .severalNames count => s!"a container selector must name exactly one field, got {count}"

inductive Json.Fault where
  | text (fault : ReadFault)
  | shape (fault : ShapeFault)

def Json.Fault.message : Json.Fault → String
  | .text fault => fault.message
  | .shape fault => fault.message

end StorageQuery
