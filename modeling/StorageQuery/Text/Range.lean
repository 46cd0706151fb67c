set_option autoImplicit false

namespace StorageQuery.Text

def within (ranges : List (Nat × Nat)) (n : Nat) : Bool := ranges.any fun r => r.1 ≤ n && n ≤ r.2

end StorageQuery.Text
