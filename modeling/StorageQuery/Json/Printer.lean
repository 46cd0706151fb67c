import StorageQuery.Json.Basic
import StorageQuery.Json.Quoted
set_option autoImplicit false

namespace StorageQuery.Json

def quoted (s : String) : List Char := Quoted.quote s.toList

mutual
def compact : Json → List Char
  | .null => ['n', 'u', 'l', 'l']
  | .bool true => ['t', 'r', 'u', 'e']
  | .bool false => ['f', 'a', 'l', 's', 'e']
  | .number n => n.chars
  | .string s => quoted s
  | .array items => '[' :: (compactItems items ++ [']'])
  | .object members => '\x7b' :: (compactMembers members ++ ['\x7d'])
def compactItems : List Json → List Char
  | [] => []
  | [item] => compact item
  | item :: rest => compact item ++ ',' :: compactItems rest
def compactMembers : List (String × Json) → List Char
  | [] => []
  | [(name, value)] => quoted name ++ ':' :: compact value
  | (name, value) :: rest => quoted name ++ ':' :: compact value ++ ',' :: compactMembers rest
end

def newLine (depth : Nat) : List Char := '\n' :: List.replicate (2 * depth) ' '

mutual
def pretty (depth : Nat) : Json → List Char
  | .array [] => ['[', ']']
  | .array items => '[' :: (prettyItems (depth + 1) items ++ newLine depth ++ [']'])
  | .object [] => ['\x7b', '\x7d']
  | .object members => '\x7b' :: (prettyMembers (depth + 1) members ++ newLine depth ++ ['\x7d'])
  | .null => compact .null
  | .bool b => compact (.bool b)
  | .number n => compact (.number n)
  | .string s => compact (.string s)
def prettyItems (depth : Nat) : List Json → List Char
  | [] => []
  | [item] => newLine depth ++ pretty depth item
  | item :: rest => newLine depth ++ pretty depth item ++ ',' :: prettyItems depth rest
def prettyMembers (depth : Nat) : List (String × Json) → List Char
  | [] => []
  | [(name, value)] => newLine depth ++ quoted name ++ ':' :: ' ' :: pretty depth value
  | (name, value) :: rest =>
    newLine depth ++ quoted name ++ ':' :: ' ' :: pretty depth value ++ ',' :: prettyMembers depth rest
end

def text (json : Json) : String := String.ofList json.compact

def prettyText (json : Json) : String := String.ofList (json.pretty 0)

end StorageQuery.Json
