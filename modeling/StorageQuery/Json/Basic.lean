import StorageQuery.Number.Basic
import StorageQuery.Table
/-!
Documents. Members keep their order. A text may repeat a member, and so may the tree read from it;
`collapse` gives each name one member, in the place of the first and with the value of the last.
-/

set_option autoImplicit false

namespace StorageQuery

inductive Json where
  | null
  | bool (b : Bool)
  | number (n : Number)
  | string (s : String)
  | array (items : List Json)
  | object (members : List (String × Json))
  deriving Repr, Inhabited

namespace Json

def member? (name : String) : Json → Option Json
  | .object members => Table.find? (· == ·) name members
  | _ => none

mutual
def collapse : Json → Json
  | .array items => .array (collapseItems items)
  | .object members => .object (Table.ofList (· == ·) (collapseMembers members))
  | json => json
def collapseItems : List Json → List Json
  | [] => []
  | item :: rest => collapse item :: collapseItems rest
def collapseMembers : List (String × Json) → List (String × Json)
  | [] => []
  | (name, value) :: rest => (name, collapse value) :: collapseMembers rest
end

mutual
/-- Equality of documents: the order of members does not matter, and the two zeros are equal. -/
def same : Json → Json → Bool
  | .null, .null => true
  | .bool a, .bool b => a == b
  | .number a, .number b => a.same b
  | .string a, .string b => a == b
  | .array as, .array bs => sameItems as bs
  | .object as, .object bs => as.length == bs.length && sameMembers as bs
  | _, _ => false
def sameItems : List Json → List Json → Bool
  | [], [] => true
  | a :: as, b :: bs => same a b && sameItems as bs
  | _, _ => false
def sameMembers : List (String × Json) → List (String × Json) → Bool
  | [], _ => true
  | (name, a) :: rest, members =>
    (match Table.find? (· == ·) name members with
      | some b => same a b
      | none => false) && sameMembers rest members
end

mutual
def Collapsed : Json → Prop
  | .array items => CollapsedItems items
  | .object members => Table.Distinct (· == ·) members ∧ CollapsedMembers members
  | _ => True
def CollapsedItems : List Json → Prop
  | [] => True
  | item :: rest => Collapsed item ∧ CollapsedItems rest
def CollapsedMembers : List (String × Json) → Prop
  | [] => True
  | (_, value) :: rest => Collapsed value ∧ CollapsedMembers rest
end

theorem collapsedMembers_iff {members : List (String × Json)} :
    CollapsedMembers members ↔ ∀ member ∈ members, member.2.Collapsed := by
  induction members with
  | nil => simp [CollapsedMembers]
  | cons member rest ih => obtain ⟨name, value⟩ := member; simp [CollapsedMembers, ih]

end Json

end StorageQuery
