set_option autoImplicit false

namespace StorageQuery.Text

def split (mark : Char) : List Char → List (List Char)
  | [] => [[]]
  | c :: cs =>
    if c = mark then [] :: split mark cs
    else
      match split mark cs with
      | [] => [[c]]
      | part :: parts => (c :: part) :: parts

theorem split_ne_nil (mark : Char) (cs : List Char) : split mark cs ≠ [] := by
  cases cs with
  | nil => simp [split]
  | cons c cs =>
    rw [split]
    split
    · simp
    · split <;> simp

def join (mark : Char) : List (List Char) → List Char
  | [] => []
  | [part] => part
  | part :: parts => part ++ mark :: join mark parts

theorem join_split (mark : Char) (cs : List Char) : join mark (split mark cs) = cs := by
  induction cs with
  | nil => rfl
  | cons c cs ih =>
    rw [split]
    split
    · cases h : split mark cs with
      | nil => exact absurd h (split_ne_nil mark cs)
      | cons part parts => simp_all [join]
    · cases h : split mark cs with
      | nil => exact absurd h (split_ne_nil mark cs)
      | cons part parts => cases parts <;> simp_all [join]

end StorageQuery.Text
