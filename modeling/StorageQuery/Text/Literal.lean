import StorageQuery.Text.Hex
import StorageQuery.Text.Hidden
set_option autoImplicit false

namespace StorageQuery.Text

def codePoint (c : Char) : List Char :=
  ['\\', 'u', '\x7b'] ++ Nat.toDigits 16 c.toNat ++ ['\x7d']

def literalChar (quote c : Char) : List Char :=
  if c = '\x00' then ['\\', '0']
  else if c = '\t' then ['\\', 't']
  else if c = '\n' then ['\\', 'n']
  else if c = '\r' then ['\\', 'r']
  else if c = '\\' ∨ c = quote then ['\\', c]
  else if isHidden c then codePoint c
  else [c]

def literal (s : String) : String :=
  String.ofList ('"' :: (s.toList.flatMap (literalChar '"') ++ ['"']))

def literalOfChar (c : Char) : String :=
  String.ofList ('\x27' :: (literalChar '\x27' c ++ ['\x27']))

end StorageQuery.Text
