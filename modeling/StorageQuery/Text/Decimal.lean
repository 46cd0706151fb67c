set_option autoImplicit false

namespace StorageQuery.Decimal

def digits (n : Nat) : List Char := Nat.toDigits 10 n

def ofInt : Int → List Char
  | .ofNat n => digits n
  | .negSucc n => '-' :: digits (n + 1)

def value (cs : List Char) : Nat := Nat.ofDigitChars 10 cs 0

@[simp] theorem value_digits (n : Nat) : value (digits n) = n := Nat.ofDigitChars_ten_toDigits

theorem digits_ne_nil (n : Nat) : digits n ≠ [] := Nat.toDigits_ne_nil

theorem isDigit_of_mem_digits {n : Nat} {c : Char} (h : c ∈ digits n) : c.isDigit = true :=
  Nat.isDigit_of_mem_toDigits (by decide) (by decide) h

def readDigits? (cs : List Char) : Option Nat :=
  if cs ≠ [] ∧ cs.all Char.isDigit then some (value cs) else none

/-- A natural number below `bound`; a plus sign may stand in front. -/
def readBelow? (bound : Nat) (cs : List Char) : Option Nat :=
  let number := readDigits? (match cs with | '+' :: rest => rest | _ => cs)
  number.filter (· < bound)

inductive Fault where
  | empty
  | notADigit
  deriving DecidableEq, Repr

def Fault.message : Fault → String
  | .empty => "cannot parse integer from empty string"
  | .notADigit => "invalid digit found in string"

/-- Drops a sign, unless a plus follows it: of two signs the second is read as a digit. -/
def dropSign (sign : Char) : List Char → List Char
  | c :: rest => if c = sign ∧ rest.head? ≠ some '+' then rest else c :: rest
  | [] => []

/-- The magnitude of an integer: a plus may stand first, underscores may stand between digits. -/
def readMagnitude (cs : List Char) : Except Fault Nat :=
  match dropSign '+' cs with
  | [] => .error .empty
  | c :: rest =>
    if c ≠ '_' ∧ (c :: rest).all (fun d => d.isDigit || d == '_') then
      .ok (value ((c :: rest).filter (· ≠ '_')))
    else .error .notADigit

def readInt (cs : List Char) : Except Fault Int :=
  if cs.head? = some '-' then (readMagnitude (dropSign '-' cs)).map fun n => -(n : Int)
  else (readMagnitude cs).map fun n => (n : Int)

private theorem not_sign_of_isDigit {c : Char} (h : c.isDigit = true) :
    c ≠ '+' ∧ c ≠ '-' ∧ c ≠ '_' := by
  refine ⟨?_, ?_, ?_⟩ <;> rintro rfl <;> revert h <;> decide

theorem readMagnitude_digits (n : Nat) : readMagnitude (digits n) = .ok n := by
  have hd : ∀ c ∈ digits n, c.isDigit = true := fun _ hc => isDigit_of_mem_digits hc
  cases h : digits n with
  | nil => exact absurd h (digits_ne_nil n)
  | cons c rest =>
    rw [h] at hd
    have hc := not_sign_of_isDigit (hd c List.mem_cons_self)
    have hall : (c :: rest).all (fun d => d.isDigit || d == '_') = true :=
      List.all_eq_true.2 fun d hm => by simp [hd d hm]
    have hf : (c :: rest).filter (· ≠ '_') = c :: rest :=
      List.filter_eq_self.2 fun d hm => by simpa using (not_sign_of_isDigit (hd d hm)).2.2
    simp only [readMagnitude, dropSign, hc.1, false_and, ↓reduceIte]
    rw [if_pos ⟨hc.2.2, hall⟩, hf, ← h, value_digits]

theorem readInt_ofInt (n : Int) : readInt (ofInt n) = .ok n := by
  cases n with
  | ofNat n =>
    have hh : (digits n).head? ≠ some '-' := fun h =>
      (not_sign_of_isDigit (isDigit_of_mem_digits (List.mem_of_head? h))).2.1 rfl
    simp only [ofInt, readInt, hh, ↓reduceIte, readMagnitude_digits]
    rfl
  | negSucc n =>
    have hh : (digits (n + 1)).head? ≠ some '+' := fun h =>
      (not_sign_of_isDigit (isDigit_of_mem_digits (List.mem_of_head? h))).1 rfl
    simp only [ofInt, readInt, List.head?_cons, ↓reduceIte, dropSign, true_and, hh, ne_eq,
      not_false_eq_true, readMagnitude_digits]
    rfl

end StorageQuery.Decimal
