import StorageQuery.Text.Utf8
import StorageQuery.Url.Domain.Direction
import StorageQuery.Url.Domain.Folding
import StorageQuery.Url.Domain.Joining
import StorageQuery.Url.Punycode
/-!
Domain names in ASCII. A name is folded and split into labels; a label that is written in ASCII on
behalf of another one is decoded, and all labels are checked.
-/

set_option autoImplicit false

namespace StorageQuery.Domain

def isForbidden (c : Char) : Bool :=
  c.toNat < 33 || c.toNat == 127 || "%#/:<>?@[\\]^|".toList.contains c

def isAscii (label : List Char) : Bool := label.all fun c => c.toNat < 128

def isEncoded (label : List Char) : Bool := label.take 4 == ['x', 'n', '-', '-']

/-- Longer labels are not decoded, and longer ones beyond ASCII not accepted. -/
def encodedLimit : Nat := 2000

def decodedLimit : Nat := 1000

/-- The label that a folded one stands for. What is decoded is in ASCII, and spells a folded label. -/
def decode? (label : List Char) : Option (List Char) :=
  if isEncoded label then
    let code := label.drop 4
    if !isAscii code || label.getLast? == some '-' || encodedLimit < code.length then none
    else (Punycode.decode? code).filter fun name => fold? name == some name
  else some label

def isLabel (name : List Char) : Bool :=
  isAscii name ||
    (!name.head?.any Text.isMark && joinersFit [] name && name.length ≤ decodedLimit)

def encode (name : List Char) : List Char :=
  if isAscii name then name else ['x', 'n', '-', '-'] ++ Punycode.encode name

def ofBytes? (bytes : List UInt8) : Option (List Char) := do
  let text ← Text.ofUtf8? bytes
  let folded ← fold? text.toList
  let names ← (Text.split '.' folded).mapM decode?
  let directed := !names.any (·.any isRightward) || names.all isDirected
  if !folded.any isForbidden && names.all isLabel && directed then
    return Text.join '.' (names.map encode)
  else none

end StorageQuery.Domain
