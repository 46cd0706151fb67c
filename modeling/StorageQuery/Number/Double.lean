/-!
Finite binary floating point numbers of 64 bits, held exactly. A magnitude is counted from zero
upward through the representable ones, so the next magnitude is the next count, and rounding a
quotient yields a count (`nearest`), past the last one where the quotient is too large.
-/

set_option autoImplicit false

namespace StorageQuery

/-- How many magnitudes share an exponent. -/
def Double.binade : Nat := 4503599627370496

/-- How many magnitudes there are; infinity would be the next count. -/
def Double.infinity : Nat := 2047 * Double.binade

structure Double where
  negative : Bool
  magnitude : Nat
  finite : magnitude < Double.infinity
  deriving DecidableEq, Repr

namespace Double

def zero (negative : Bool) : Double := ⟨negative, 0, by decide⟩

def largest (negative : Bool) : Double := ⟨negative, infinity - 1, by decide⟩

def significand (m : Nat) : Nat := if m < binade then m else binade + m % binade

def exponent (m : Nat) : Int := if m < binade then -1074 else (m / binade : Nat) - 1075

def same (x y : Double) : Bool :=
  x.magnitude == y.magnitude && (x.negative == y.negative || x.magnitude == 0)

/-- The nearest natural number to a quotient; a half goes to the even neighbour. -/
def roundQuotient (num den : Nat) : Nat :=
  let q := num / den
  let r := num % den
  if 2 * r < den then q else if den < 2 * r then q + 1 else q + q % 2

/-- `num / den` times two to the power `-e`, as a quotient again. -/
def scaleDown (num den : Nat) (e : Int) : Nat × Nat :=
  if 0 ≤ e then (num, den * Nat.pow 2 e.toNat) else (num * Nat.pow 2 (-e).toNat, den)

/-- The exponent with which the quotient has a significand of 53 bits, bounded below. -/
def unitExponent (num den : Nat) : Int :=
  let k : Int := (num.log2 : Int) - (den.log2 : Int)
  let (n, d) := scaleDown num den k
  max ((if n < d then k - 1 else k) - 52) (-1074)

/-- The count of the magnitude nearest to a quotient; a half goes to the even significand. -/
def nearest (num den : Nat) : Nat :=
  if num = 0 then 0 else
    let e := unitExponent num den
    let (n, d) := scaleDown num den e
    (e + 1074).toNat * binade + roundQuotient n d

def ofQuotient? (negative : Bool) (num den : Nat) : Option Double :=
  let m := nearest num den
  if h : m < infinity then some ⟨negative, m, h⟩ else none

/-- The bits of a number behind its 64 leading ones, in words of 64 bits, count only where the leading
word has bits too, that is by as many low bits as the leading word has. -/
def countsBehind (n : Nat) : Bool :=
  let width := n.log2 % 64 + 1
  (List.range (n.log2 / 64)).any fun i => n / Nat.pow 2 (64 * i) % Nat.pow 2 width != 0

/-- The 64 leading bits of a number, the last one set also if bits behind them count. -/
def lead (n : Nat) : Nat :=
  let leading := n / Nat.pow 2 (n.log2 - 63)
  if countsBehind n && leading % 2 == 0 then leading + 1 else leading

/-- Rounds an integer by its leading 64 bits; beyond the largest double the result stays there. An
integer of at most 64 bits goes to the nearest double. -/
def ofInt (n : Int) : Double :=
  (ofQuotient? (n < 0) (lead n.natAbs * Nat.pow 2 (n.natAbs.log2 - 63)) 1).getD (largest (n < 0))

def quotient (m : Nat) : Nat × Nat :=
  (significand m * Nat.pow 2 (exponent m).toNat, Nat.pow 2 (-exponent m).toNat)

def times (a b : Nat) : Nat :=
  nearest ((quotient a).1 * (quotient b).1) ((quotient a).2 * (quotient b).2)

def dividedBy (a b : Nat) : Nat :=
  nearest ((quotient a).1 * (quotient b).2) ((quotient a).2 * (quotient b).1)

def topPower : Nat := 308

def tenTo (power : Nat) : Nat := nearest (Nat.pow 10 power) 1

/-- A magnitude times ten to a power. There is one rounding for each step, and at most `topPower` tens
are divided by in one. -/
def scale? (m : Nat) (power : Int) : Option Nat :=
  if power.natAbs ≤ topPower then
    some (if 0 ≤ power then times m (tenTo power.natAbs) else dividedBy m (tenTo power.natAbs))
  else if m = 0 then some 0
  else if 0 ≤ power then none
  else scale? (dividedBy m (tenTo topPower)) (power + topPower)
termination_by power.natAbs
decreasing_by
  rw [topPower] at *
  omega

/-- Rounds a significand, and then what it becomes with a power of ten. The result need not be the
double nearest to the exact product, and is none if a rounded one is too large. -/
def ofParts? (negative : Bool) (significand : Nat) (power : Int) : Option Double :=
  (scale? (nearest significand 1) power).bind fun m =>
    if h : m < infinity then some ⟨negative, m, h⟩ else none

end Double

end StorageQuery
