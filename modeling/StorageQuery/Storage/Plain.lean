import StorageQuery.Storage.Basic
import StorageQuery.Storage.Error
/-!
The plain document of a storage, as callers see it. Maps become lists of entries, bytes become hex
digits, and a big map shows its pointer alone. An integer of more than 64 bits goes by the policy.
-/

set_option autoImplicit false

namespace StorageQuery

/-- What becomes of an integer that no number of 64 bits stands for. -/
inductive WidePolicy where
  | lossy
  | strict
  | string
  deriving DecidableEq, Repr, Inhabited

namespace WidePolicy

def name : WidePolicy → String
  | lossy => "lossy"
  | strict => "strict"
  | string => "string"

def ofText (text : String) : Except String WidePolicy :=
  let lower := String.ofList (text.toList.map Char.toLower)
  match [lossy, strict, string].find? fun policy => policy.name == lower with
  | some policy => .ok policy
  | none => .error s!"unknown big integer policy '{lower}', expected lossy, strict or string"

def narrow (policy : WidePolicy) (n : Int) : Except StorageError Json :=
  match Number.ofInt? n, policy with
  | some number, _ => .ok (.number number)
  | none, lossy => .ok (.number (.real (Double.ofInt n)))
  | none, strict => .error (.tooWide n)
  | none, string => .ok (.string (String.ofList (Decimal.ofInt n)))

theorem narrow_of_fits (policy : WidePolicy) {n : Int} (h : Number.Fits n) :
    policy.narrow n = .ok (.number (.integer n h)) := by
  have hsome : Number.ofInt? n = some (.integer n h) := dif_pos h
  unfold narrow
  rw [hsome]

theorem narrow_of_not_fits (policy : WidePolicy) {n : Int} (h : ¬ Number.Fits n) :
    policy.narrow n =
      match policy with
      | lossy => .ok (.number (.real (Double.ofInt n)))
      | strict => .error (.tooWide n)
      | string => .ok (.string (String.ofList (Decimal.ofInt n))) := by
  have hnone : Number.ofInt? n = none := dif_neg h
  unfold narrow
  rw [hnone]
  cases policy <;> rfl

end WidePolicy

namespace Storage

def bigMapType : String := "big_map"

def plainBigMap (handle : BigMap) : Json :=
  .object ([("type", .string bigMapType), ("value", .string handle.pointer)] ++
    (handle.size.map fun size => ("size", Json.number (.ofUInt64 size))).toList)

def plainEntry (key : Key) (value : Json) : Json := .object [("key", key.toJson), ("value", value)]

mutual
/-- The plain document, or the error of the first integer that the policy refuses. -/
def toPlain (policy : WidePolicy) : Storage → Except StorageError Json
  | .null => .ok .null
  | .bool b => .ok (.bool b)
  | .number n => .ok (.number n)
  | .bigInt n => policy.narrow n
  | .string s => .ok (.string s)
  | .bytes bs => .ok (.string (String.ofList (Hex.ofBytes bs)))
  | .array items => (plainItems policy items).map .array
  | .object fields => (plainFields policy fields).map .object
  | .map entries => (plainEntries policy entries).map .array
  | .bigMap handle => .ok (plainBigMap handle)
def plainItems (policy : WidePolicy) : List Storage → Except StorageError (List Json)
  | [] => .ok []
  | item :: rest => do
    let json ← toPlain policy item
    return json :: (← plainItems policy rest)
def plainFields (policy : WidePolicy) :
    List (String × Storage) → Except StorageError (List (String × Json))
  | [] => .ok []
  | (name, value) :: rest => do
    let json ← toPlain policy value
    return (name, json) :: (← plainFields policy rest)
def plainEntries (policy : WidePolicy) : List (Key × Storage) → Except StorageError (List Json)
  | [] => .ok []
  | (key, value) :: rest => do
    let json ← toPlain policy value
    return plainEntry key json :: (← plainEntries policy rest)
end

mutual
/-- The integers of more than 64 bits that the plain document has to show, in its order. -/
def wide : Storage → List Int
  | .bigInt n => if Number.Fits n then [] else [n]
  | .array items => wideItems items
  | .object fields => wideFields fields
  | .map entries => wideEntries entries
  | _ => []
def wideItems : List Storage → List Int
  | [] => []
  | item :: rest => wide item ++ wideItems rest
def wideFields : List (String × Storage) → List Int
  | [] => []
  | (_, value) :: rest => wide value ++ wideFields rest
def wideEntries : List (Key × Storage) → List Int
  | [] => []
  | (_, value) :: rest => wide value ++ wideEntries rest
end

end Storage

end StorageQuery
