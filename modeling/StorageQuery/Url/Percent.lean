import StorageQuery.Text.Hex
import StorageQuery.Text.Utf8
set_option autoImplicit false

namespace StorageQuery.Percent

def encodeByte (b : UInt8) : List Char :=
  ['%', Hex.upperDigit (b.toNat / 16), Hex.upperDigit (b.toNat % 16)]

def encodeChar (set : Char → Bool) (c : Char) : List Char :=
  if set c then (String.utf8EncodeChar c).flatMap encodeByte else [c]

def encode (set : Char → Bool) (cs : List Char) : List Char := cs.flatMap (encodeChar set)

/-- The bytes that a text stands for; a percent sign without two digits stands for itself. -/
def decode : List Char → List UInt8
  | [] => []
  | '%' :: a :: b :: rest =>
    match Hex.value? a, Hex.value? b with
    | some hi, some lo => UInt8.ofNat (16 * hi + lo) :: decode rest
    | _, _ => Text.utf8 ['%'] ++ decode (a :: b :: rest)
  | c :: rest => Text.utf8 [c] ++ decode rest

def controls (c : Char) : Bool := c.toNat < 32 || 126 < c.toNat

def fragment (c : Char) : Bool :=
  controls c || c == ' ' || c == '"' || c == '<' || c == '>' || c.toNat == 0x60

def query (c : Char) : Bool :=
  controls c || c == ' ' || c == '"' || c == '#' || c == '<' || c == '>'

def specialQuery (c : Char) : Bool := query c || c == '\x27'

def path (c : Char) : Bool :=
  fragment c || c == '#' || c == '?' || c == '\x7b' || c == '\x7d'

/-- The set for a segment that is not to be split: slashes and percent signs are encoded too. -/
def segment (c : Char) : Bool := path c || c == '/' || c == '%'

def specialSegment (c : Char) : Bool := segment c || c == '\\'

def userinfo (c : Char) : Bool :=
  path c || c == '/' || c == ':' || c == ';' || c == '=' || c == '@' || c == '[' || c == '\\' ||
    c == ']' || c == '^' || c == '|'

end StorageQuery.Percent
