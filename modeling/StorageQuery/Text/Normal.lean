import StorageQuery.Text.Decomposition
import StorageQuery.Text.Mark
/-!
The normal form of a text: canonical equivalents have the same one. A text is taken apart, its marks are
put into the order of their classes, and all is put together again.
-/

set_option autoImplicit false

namespace StorageQuery.Text

/-- Puts a character before ordered ones. A mark goes behind the marks of lower classes. -/
def insertMark (item : Nat × Char) : List (Nat × Char) → List (Nat × Char)
  | [] => [item]
  | next :: rest =>
    if next.1 ≠ 0 ∧ next.1 < item.1 then next :: insertMark item rest else item :: next :: rest

def ordered (cs : List Char) : List (Nat × Char) :=
  cs.foldr (fun c rest => insertMark (combiningClass c, c) rest) []

/-- Puts together what follows a character of class zero. `held` are the marks behind it that are no
part of it; a mark is kept from it by a held one whose class is not lower. -/
def composeBehind (base : Char) (held : List (Nat × Char)) : List (Nat × Char) → List Char
  | [] => base :: held.map Prod.snd
  | (k, c) :: rest =>
    let free := match held.getLast? with
      | none => true
      | some (last, _) => last < k
    match if free then compose? base c else none with
    | some whole => composeBehind whole held rest
    | none =>
      if k = 0 then base :: (held.map Prod.snd ++ composeBehind c [] rest)
      else composeBehind base (held ++ [(k, c)]) rest

def composeAll : List (Nat × Char) → List Char
  | [] => []
  | (k, c) :: rest => if k = 0 then composeBehind c [] rest else c :: composeAll rest

def normal (cs : List Char) : List Char :=
  if cs.all fun c => c.toNat < 0x300 then cs else composeAll (ordered (cs.flatMap decompose))

end StorageQuery.Text
