import StorageQuery.Number.Shortest
set_option autoImplicit false

namespace StorageQuery

abbrev Number.Fits (n : Int) : Prop := -9223372036854775808 ≤ n ∧ n < 18446744073709551616

inductive Number where
  | integer (value : Int) (fits : Number.Fits value)
  | real (value : Double)
  deriving DecidableEq, Repr

namespace Number

def ofInt? (n : Int) : Option Number :=
  if h : Fits n then some (.integer n h) else none

def ofUInt64 (n : UInt64) : Number :=
  .integer n.toNat ⟨by omega, by have := n.toNat_lt; omega⟩

def toUInt64? : Number → Option UInt64
  | .integer n _ => if 0 ≤ n then some (UInt64.ofNat n.toNat) else none
  | .real _ => none

def chars : Number → List Char
  | .integer n _ => Decimal.ofInt n
  | .real x => x.text

def text (n : Number) : String := String.ofList n.chars

def same : Number → Number → Bool
  | .integer a _, .integer b _ => a == b
  | .real x, .real y => x.same y
  | _, _ => false

/-- What a numeral stands for: sign, the digits before and after the point, the power of ten. -/
structure Numeral where
  negative : Bool
  whole : List Char
  fraction : Option (List Char)
  power : Option Int

/-- Digits go into a significand for as long as 64 bits hold it; the first that does not fit and all
behind it are left. -/
def takeDigits (significand : Nat) : List Char → Nat × List Char
  | [] => (significand, [])
  | c :: cs =>
    let longer := 10 * significand + (c.toNat - 48)
    if longer < 18446744073709551616 then takeDigits longer cs else (significand, c :: cs)

/-- A numeral without point and exponent is an integer if it fits and is not a negative zero. All
others become doubles. Of the digits that are left out only those before the point count, each for a
power of ten; behind the point there may be room again. -/
def ofNumeral? (t : Numeral) : Option Number :=
  let fraction := t.fraction.getD []
  let (whole, wholeLeft) := takeDigits 0 t.whole
  let (significand, fractionLeft) := takeDigits whole fraction
  let taken : Int := fraction.length - fractionLeft.length
  let double := (Double.ofParts? t.negative significand (t.power.getD 0 + wholeLeft.length - taken)).map .real
  if t.fraction.isSome || t.power.isSome || !wholeLeft.isEmpty || (t.negative && significand == 0) then double
  else
    match ofInt? (if t.negative then -(significand : Int) else significand) with
    | some n => some n
    | none => double

end Number

end StorageQuery
