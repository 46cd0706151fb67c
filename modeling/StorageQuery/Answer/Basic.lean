import StorageQuery.Key
/-!
Answers: one result for each selector, in their order, under the selector's name. Names may repeat.
What is not there is part of the answer.
-/

set_option autoImplicit false

namespace StorageQuery

inductive Missing where
  | field
  | key
  | map
  deriving DecidableEq, Repr

def Missing.message : Missing → String
  | .field => "This data field does not exist in the contract storage"
  | .key => "The current map does not contain this key"
  | .map => "This data field does not have type MichelsonMap or BigMap, " ++
      "use simple string to access to the properties"

mutual
/-- The result of a selector: a value, or a row for each key, in the order of the request. -/
inductive FieldResult where
  | value (json : Json)
  | rows (rows : List (Key × RowResult))
  | missing (reason : Missing)
  deriving Repr
inductive RowResult where
  | value (json : Json)
  | nested (answer : List (String × FieldResult))
  | missing (reason : Missing)
  deriving Repr
end

abbrev Answer := List (String × FieldResult)

namespace Answer

def get? (name : String) (answer : Answer) : Option FieldResult :=
  Table.find? (· == ·) name answer

def reasonMember (reason : Missing) : String × Json := ("error", .string reason.message)

mutual
/-- The answer as a tree of members, in which names may repeat. -/
def members : Answer → List (String × Json)
  | [] => []
  | (name, result) :: rest => (name, fieldTree result) :: members rest
def fieldTree : FieldResult → Json
  | .value json => json
  | .rows rows => .array (rowTrees rows)
  | .missing reason => .object [reasonMember reason]
def rowTrees : List (Key × RowResult) → List Json
  | [] => []
  | (key, result) :: rest => .object [("key", key.toJson), rowMember result] :: rowTrees rest
def rowMember : RowResult → String × Json
  | .value json => ("value", json)
  | .nested answer => ("value", .object (members answer))
  | .missing reason => reasonMember reason
end

def tree (answer : Answer) : Json := .object (members answer)

def text (answer : Answer) : String := answer.tree.text

def prettyText (answer : Answer) : String := answer.tree.prettyText

/-- As a document, a repeated name has the place of its first result and the value of its last. -/
def toJson (answer : Answer) : Json := answer.tree.collapse

mutual
def same : Answer → Answer → Bool
  | [], [] => true
  | (m, a) :: as, (n, b) :: bs => m == n && sameField a b && same as bs
  | _, _ => false
def sameField : FieldResult → FieldResult → Bool
  | .value a, .value b => a.same b
  | .rows as, .rows bs => sameRows as bs
  | .missing a, .missing b => a == b
  | _, _ => false
def sameRows : List (Key × RowResult) → List (Key × RowResult) → Bool
  | [], [] => true
  | (k, a) :: as, (l, b) :: bs => k.same l && sameRow a b && sameRows as bs
  | _, _ => false
def sameRow : RowResult → RowResult → Bool
  | .value a, .value b => a.same b
  | .nested as, .nested bs => same as bs
  | .missing a, .missing b => a == b
  | _, _ => false
end

end Answer

end StorageQuery
