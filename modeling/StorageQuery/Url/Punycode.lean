/-!
Punycode: a label with characters beyond ASCII, written in ASCII. The characters beyond ASCII follow
the others as increments, in base 36 with thresholds that adapt to the increments seen.
-/

set_option autoImplicit false

namespace StorageQuery.Punycode

def digit (d : Nat) : Char := if d < 26 then Char.ofNat (97 + d) else Char.ofNat (22 + d)

def digitValue? (c : Char) : Option Nat :=
  if 'a' ≤ c ∧ c ≤ 'z' then some (c.toNat - 97)
  else if '0' ≤ c ∧ c ≤ '9' then some (c.toNat - 22)
  else none

/-- The threshold of the digit with the given place, counted in steps of 36. -/
def threshold (place bias : Nat) : Nat :=
  if place ≤ bias then 1 else if bias + 26 ≤ place then 26 else place - bias

theorem threshold_bounds (place bias : Nat) : 1 ≤ threshold place bias ∧ threshold place bias ≤ 26 := by
  unfold threshold
  split
  · omega
  · split <;> omega

/-- Divides by 35 until at most 455 is left, counting in steps of 36. -/
def shrink (delta places : Nat) : Nat × Nat :=
  if 455 < delta then shrink (delta / 35) (places + 36) else (delta, places)
termination_by delta
decreasing_by omega

def adapt (delta points : Nat) (first : Bool) : Nat :=
  let halved := if first then delta / 700 else delta / 2
  let (left, places) := shrink (halved + halved / points) 0
  places + 36 * left / (left + 38)

def encodeDelta (bias place delta : Nat) : List Char :=
  let t := threshold place bias
  if delta < t then [digit delta]
  else digit (t + (delta - t) % (36 - t)) :: encodeDelta bias (place + 36) ((delta - t) / (36 - t))
termination_by delta
decreasing_by
  have := threshold_bounds place bias
  have := Nat.div_le_self (delta - threshold place bias) (36 - threshold place bias)
  omega

structure Encoder where
  out : List Char
  delta : Nat
  bias : Nat
  handled : Nat

def Encoder.pass (basic n : Nat) (e : Encoder) : List Char → Encoder
  | [] => e
  | c :: rest =>
    let e :=
      if c.toNat < n then { e with delta := e.delta + 1 }
      else if c.toNat = n then
        { out := e.out ++ encodeDelta e.bias 36 e.delta, delta := 0,
          bias := adapt e.delta (e.handled + 1) (e.handled == basic), handled := e.handled + 1 }
      else e
    e.pass basic n rest

/-- The passes for increasing code points, from the one that is due next. -/
def Encoder.passes (basic : Nat) (label : List Char) (due : Nat) (e : Encoder) : List Nat → Encoder
  | [] => e
  | n :: rest =>
    let e := { e with delta := e.delta + (n - due) * (e.handled + 1) }
    let e := e.pass basic n label
    { e with delta := e.delta + 1 }.passes basic label (n + 1) rest

def encode (label : List Char) : List Char :=
  let basic := label.filter fun c => c.toNat < 128
  let points := ((label.filter fun c => 128 ≤ c.toNat).map Char.toNat).mergeSort.eraseDups
  let start : Encoder := ⟨[], 0, 72, basic.length⟩
  basic ++ (if basic.isEmpty then [] else ['-']) ++
    (start.passes basic.length label 128 points).out

def bound : Nat := 4294967296

/-- An increment: weighted digits up to one below its threshold. -/
def decodeDelta (bias : Nat) : (place weight sum : Nat) → List Char → Option (Nat × List Char)
  | _, _, _, [] => none
  | place, weight, sum, c :: rest =>
    (digitValue? c).bind fun d =>
      let t := threshold place bias
      let sum := sum + d * weight
      if bound ≤ sum then none
      else if d < t then some (sum, rest)
      else if bound ≤ weight * (36 - t) then none
      else decodeDelta bias (place + 36) (weight * (36 - t)) sum rest

/-- Inserts a character for each increment, `fuel` times at most. -/
def decodeDeltas : (fuel : Nat) → (n i bias : Nat) → (out cs : List Char) → Option (List Char)
  | _, _, _, _, out, [] => some out
  | 0, _, _, _, _, _ => none
  | fuel + 1, n, i, bias, out, cs =>
    (decodeDelta bias 36 1 i cs).bind fun (i', rest) =>
      let count := out.length + 1
      let n := n + i' / count
      let place := i' % count
      if n.isValidChar then
        decodeDeltas fuel n (place + 1) (adapt (i' - i) count (i == 0))
          (out.take place ++ Char.ofNat n :: out.drop place) rest
      else none

/-- The label that a text stands for: what follows the last hyphen are the increments. A hyphen at the
start has nothing before it to set apart. -/
def decode? (cs : List Char) : Option (List Char) :=
  let tail := (cs.reverse.takeWhile (· ≠ '-')).reverse
  let basic := cs.take (cs.length - tail.length - 1)
  if cs.head? = some '-' ∧ basic.isEmpty then none
  else decodeDeltas (tail.length + 1) 128 0 72 basic tail

end StorageQuery.Punycode
