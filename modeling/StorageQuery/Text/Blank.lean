set_option autoImplicit false

namespace StorageQuery.Text

/-- The characters with the property `White_Space`. -/
def isBlank (c : Char) : Bool :=
  let n := c.toNat
  (9 ≤ n && n ≤ 13) || n == 32 || n == 0x85 || n == 0xA0 || n == 0x1680 ||
    (0x2000 ≤ n && n ≤ 0x200A) || n == 0x2028 || n == 0x2029 || n == 0x202F || n == 0x205F || n == 0x3000

def trim (cs : List Char) : List Char :=
  ((cs.dropWhile isBlank).reverse.dropWhile isBlank).reverse

/-- A byte that is blank in plain ASCII text; the vertical tab is not. -/
def isBlankByte (b : UInt8) : Bool := b == 9 || b == 10 || b == 12 || b == 13 || b == 32

end StorageQuery.Text
