import StorageQuery.Text.Utf8
set_option autoImplicit false

namespace StorageQuery.Hex

def digit (n : Nat) : Char := Nat.digitChar n

def upperDigit (n : Nat) : Char := if n < 10 then Char.ofNat (48 + n) else Char.ofNat (55 + n)

def value? (c : Char) : Option Nat :=
  if '0' ≤ c ∧ c ≤ '9' then some (c.toNat - 48)
  else if 'a' ≤ c ∧ c ≤ 'f' then some (c.toNat - 87)
  else if 'A' ≤ c ∧ c ≤ 'F' then some (c.toNat - 55)
  else none

/-- The number that digits spell; any other character counts as a zero. -/
def read (cs : List Char) : Nat := cs.foldl (fun n c => 16 * n + (value? c).getD 0) 0

theorem value?_digit {n : Nat} (h : n < 16) : value? (digit n) = some n := by
  revert n; decide

theorem value?_upperDigit {n : Nat} (h : n < 16) : value? (upperDigit n) = some n := by
  revert n; decide

def ofByte (b : UInt8) : List Char := [digit (b.toNat / 16), digit (b.toNat % 16)]

def ofBytes (bytes : List UInt8) : List Char := bytes.flatMap ofByte

inductive Fault where
  | oddLength
  | notADigit (byte : UInt8) (position : Nat)
  deriving DecidableEq, Repr

def ofAscii (position : Nat) (byte : UInt8) : Except Fault Nat :=
  match value? (Char.ofNat byte.toNat) with
  | some n => .ok n
  | none => .error (.notADigit byte position)

/-- Pairs of digits from the given position on; a lone digit at the end counts for nothing. -/
def readPairs (position : Nat) : List UInt8 → Except Fault (List UInt8)
  | hi :: lo :: rest => do
    let h ← ofAscii position hi
    let l ← ofAscii (position + 1) lo
    return UInt8.ofNat (16 * h + l) :: (← readPairs (position + 2) rest)
  | _ => .ok []

/-- Reads a text, given as its bytes. An odd length is refused before any digit is looked at. -/
def readBytes (text : List UInt8) : Except Fault (List UInt8) :=
  if text.length % 2 = 1 then .error .oddLength else readPairs 0 text

theorem utf8EncodeChar_digit {n : Nat} (h : n < 16) :
    String.utf8EncodeChar (digit n) = [UInt8.ofNat (digit n).toNat] := by
  revert n; decide

theorem ofAscii_digit (position : Nat) {n : Nat} (h : n < 16) :
    ofAscii position (UInt8.ofNat (digit n).toNat) = .ok n := by
  have hchar : Char.ofNat (UInt8.ofNat (digit n).toNat).toNat = digit n := by revert n; decide
  rw [ofAscii, hchar, value?_digit h]

theorem utf8_ofBytes_cons (b : UInt8) (bytes : List UInt8) :
    Text.utf8 (ofBytes (b :: bytes)) =
      UInt8.ofNat (digit (b.toNat / 16)).toNat :: UInt8.ofNat (digit (b.toNat % 16)).toNat ::
        Text.utf8 (ofBytes bytes) := by
  have hb := b.toNat_lt
  simp [Text.utf8, ofBytes, ofByte, utf8EncodeChar_digit (n := b.toNat / 16) (by omega),
    utf8EncodeChar_digit (n := b.toNat % 16) (by omega)]

theorem readPairs_ofBytes (position : Nat) (bytes : List UInt8) :
    readPairs position (Text.utf8 (ofBytes bytes)) = .ok bytes := by
  induction bytes generalizing position with
  | nil => rfl
  | cons b bytes ih =>
    have hb := b.toNat_lt
    have hhigh : b.toNat / 16 < 16 := by omega
    have hlow : b.toNat % 16 < 16 := by omega
    have hjoin : UInt8.ofNat (16 * (b.toNat / 16) + b.toNat % 16) = b := by
      rw [Nat.div_add_mod, UInt8.ofNat_toNat]
    rw [utf8_ofBytes_cons, readPairs, ofAscii_digit position hhigh, ofAscii_digit (position + 1) hlow, ih]
    exact congrArg (fun byte => Except.ok (byte :: bytes)) hjoin

theorem readBytes_ofBytes (bytes : List UInt8) : readBytes (Text.utf8 (ofBytes bytes)) = .ok bytes := by
  have heven : (Text.utf8 (ofBytes bytes)).length = 2 * bytes.length := by
    induction bytes with
    | nil => rfl
    | cons b bytes ih =>
      rw [utf8_ofBytes_cons]
      simp only [List.length_cons, ih]
      omega
  have hparity : ¬ (Text.utf8 (ofBytes bytes)).length % 2 = 1 := by omega
  rw [readBytes, if_neg hparity, readPairs_ofBytes]

end StorageQuery.Hex
