import StorageQuery.Number.Double
import StorageQuery.Text.Decimal
/-!
The shortest decimal that reads back as a given double, and its text. Of the decimals with the
fewest digits inside the interval that rounds to the double, the nearest is taken.
-/

set_option autoImplicit false

namespace StorageQuery.Double

/-- Digits times a power of ten: `0.d₁d₂…dₙ × 10 ^ point`. -/
structure DecimalForm where
  digits : List Char
  point : Int
  deriving DecidableEq, Repr

/-- A magnitude with the interval around it that rounds to it, over one denominator. -/
structure Interval where
  low : Nat
  value : Nat
  high : Nat
  den : Nat
  closed : Bool

/-- The neighbours lie half a unit away; below a power of two, a quarter. -/
def interval (m : Nat) : Interval :=
  let s := 4 * significand m
  let e := exponent m - 2
  let below := if 2 * binade ≤ m ∧ m % binade = 0 then 1 else 2
  let up := Nat.pow 2 e.toNat
  ⟨(s - below) * up, s * up, (s + 2) * up, Nat.pow 2 (-e).toNat, m % 2 == 0⟩

def pointOf (num den : Nat) : Int :=
  if den ≤ num then ((Decimal.digits (num / den)).length : Int)
  else 1 - ((Decimal.digits ((den + num - 1) / num - 1)).length : Int)

def Interval.holds (i : Interval) (c : Nat) (power : Int) : Bool :=
  let up := Nat.pow 10 power.toNat
  let down := Nat.pow 10 (-power).toNat
  let x := c * up * i.den
  if i.closed then i.low * down ≤ x && x ≤ i.high * down else i.low * down < x && x < i.high * down

/-- On the grid of multiples of `10 ^ power`, the neighbour of the value that rounds to it; of two
the nearer, and of two at the same distance the even one. -/
def Interval.onGrid? (i : Interval) (power : Int) : Option Nat :=
  let num := i.value * Nat.pow 10 (-power).toNat
  let den := i.den * Nat.pow 10 power.toNat
  let c := num / den
  let r := num % den
  match i.holds c power, i.holds (c + 1) power with
  | true, true =>
    if 2 * r < den then some c else if den < 2 * r then some (c + 1) else some (c + c % 2)
  | true, false => some c
  | false, true => some (c + 1)
  | false, false => none

def Interval.search (i : Interval) : (count : Nat) → (power : Int) → Nat × Int
  | 0, power => (i.value / i.den, power)
  | count + 1, power =>
    match i.onGrid? power with
    | some c => (c, power)
    | none => i.search count (power - 1)

def shortest (m : Nat) : DecimalForm :=
  let i := interval m
  let (c, power) := i.search 17 (pointOf i.value i.den - 1)
  let ds := Decimal.digits c
  ⟨(ds.reverse.dropWhile (· == '0')).reverse, power + ds.length⟩

/-- Positional from `0.00001` to below ten to the sixteenth, with a fraction of at least one digit;
otherwise with an exponent that carries its sign. -/
def DecimalForm.text (d : DecimalForm) : List Char :=
  let n : Int := d.digits.length
  if 0 < d.point ∧ d.point ≤ 16 then
    if n ≤ d.point then d.digits ++ List.replicate (d.point - n).toNat '0' ++ ['.', '0']
    else d.digits.take d.point.toNat ++ '.' :: d.digits.drop d.point.toNat
  else if -5 < d.point ∧ d.point ≤ 0 then
    '0' :: '.' :: List.replicate (-d.point).toNat '0' ++ d.digits
  else
    let fraction := if n = 1 then [] else '.' :: d.digits.drop 1
    let e := d.point - 1
    let sign := if e < 0 then '-' else '+'
    d.digits.take 1 ++ fraction ++ 'e' :: sign :: Decimal.digits e.natAbs

def text (x : Double) : List Char :=
  let body := if x.magnitude = 0 then ['0', '.', '0'] else (shortest x.magnitude).text
  if x.negative then '-' :: body else body

end StorageQuery.Double
