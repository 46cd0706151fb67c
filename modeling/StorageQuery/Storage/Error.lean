import StorageQuery.Json.Shape
set_option autoImplicit false

namespace StorageQuery

inductive SnapshotFault where
  | mapNotList
  | entryNotObject
  | entryWithoutKey
  | noPointer
  | notAPointer
  | noResolver (pointer : String)
  | notAnInteger
  | invalidInteger (text : String) (fault : Decimal.Fault)
  | notBytes
  | invalidBytes (text : String) (fault : Hex.Fault)
  | noSnapshot (contract : String)
  | refused (reason : String)

def Hex.Fault.message : Hex.Fault → String
  | .oddLength => "Odd number of digits"
  | .notADigit byte position =>
    s!"Invalid character {Text.literalOfChar (Char.ofNat byte.toNat)} at position {position}"

def SnapshotFault.message : SnapshotFault → String
  | .mapNotList => "$map must hold an array of entries"
  | .entryNotObject => "$map entries must be objects"
  | .entryWithoutKey => "$map entry has no usable key"
  | .noPointer => "$big_map needs an id"
  | .notAPointer => "$big_map must be a pointer or an object"
  | .noResolver pointer => s!"big map {pointer} found but no remote map resolver is configured"
  | .notAnInteger => "$int must be a decimal string"
  | .invalidInteger text fault => s!"invalid $int '{text}': {fault.message}"
  | .notBytes => "$bytes must be a hex string"
  | .invalidBytes text fault => s!"invalid $bytes '{text}': {fault.message}"
  | .noSnapshot contract => s!"no snapshot for contract {contract}"
  | .refused reason => reason

inductive StorageError where
  | unrepresentable (reason : String)
  | transport (reason : String)
  | status (code : Nat) (reason : String)
  | undecodable (reason : String)
  | snapshot (fault : SnapshotFault)
  | configuration (reason : String)
  | json (fault : Json.Fault)

namespace StorageError

def tooWide (n : Int) : StorageError :=
  .unrepresentable s!"{String.ofList (Decimal.ofInt n)} does not fit a 64-bit integer"

def message : StorageError → String
  | unrepresentable reason => s!"cannot normalize value: {reason}"
  | transport reason => s!"transport error: {reason}"
  | status code reason => s!"remote store answered {code}: {reason}"
  | undecodable reason => s!"decode error: {reason}"
  | snapshot fault => s!"invalid snapshot: {fault.message}"
  | configuration reason => s!"invalid configuration: {reason}"
  | json fault => s!"JSON error: {fault.message}"

end StorageError

end StorageQuery
