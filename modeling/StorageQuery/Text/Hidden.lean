import StorageQuery.Text.Blank
import StorageQuery.Text.Category
import StorageQuery.Text.Mark
set_option autoImplicit false

namespace StorageQuery.Text

/-- Marks that take a place of their own, and yet extend the character before them. -/
def extendingRanges : List (Nat × Nat) :=
  [(2494, 2494), (2519, 2519), (2878, 2878), (2903, 2903), (3006, 3006), (3031, 3031),
   (3264, 3264), (3266, 3266), (3271, 3272), (3274, 3275), (3285, 3286), (3390, 3390),
   (3415, 3415), (3535, 3535), (3551, 3551), (5909, 5909), (5940, 5940), (6965, 6965),
   (6971, 6971), (6973, 6973), (6979, 6980), (7082, 7082), (7154, 7155), (12334, 12335),
   (43347, 43347), (43456, 43456), (70080, 70080), (70197, 70197), (70462, 70462), (70477, 70477),
   (70487, 70487), (70584, 70584), (70594, 70594), (70597, 70597), (70599, 70601), (70607, 70607),
   (70832, 70832), (70845, 70845), (71087, 71087), (71350, 71350), (71984, 71984), (71997, 71997),
   (73537, 73537), (94192, 94193), (119141, 119142), (119149, 119154)]

/-- Controls, blanks other than the space, code points without a visible character, and all that
extends the character before it. -/
def isHidden (c : Char) : Bool :=
  let n := c.toNat
  n < 32 || n == 127 ||
    (128 ≤ n && (n < 160 || isBlank c || isUnassigned c || isFormat c || isTraceless c ||
      isNonspacing c || within extendingRanges n))

end StorageQuery.Text
