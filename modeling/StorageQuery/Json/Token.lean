import StorageQuery.Json.Basic
import StorageQuery.Json.Quoted
/-!
The tokens of a text. Where no token can be read, the reason stands as the last one, so that the
reader decides whether it gets that far.
-/

set_option autoImplicit false

namespace StorageQuery

inductive Token where
  | openArray
  | closeArray
  | openObject
  | closeObject
  | comma
  | colon
  | null
  | bool (b : Bool)
  | number (n : Number)
  | hugeNumber
  | string (s : String)
  /-- A string in which some escape stands for no character. -/
  | oddString (fault : ReadFault)
  /-- A string that breaks off. The second fault is what is wrong with it where escapes need not
  stand for characters. -/
  | brokenString (fault outline : ReadFault)
  | brokenNumber (fault : ReadFault)
  | broken (fault : ReadFault)
  deriving DecidableEq, Repr

namespace Token

def isSpace (c : Char) : Bool := c == ' ' || c == '\n' || c == '\t' || c == '\r'

def readWord : (word : List Char) → (cs : List Char) → Except ReadFault (List Char)
  | [], cs => .ok cs
  | _ :: _, [] => .error .endInValue
  | w :: word, c :: cs => if c = w then readWord word cs else .error .noWord

theorem readWord_length {word cs rest : List Char} (h : readWord word cs = .ok rest) :
    rest.length ≤ cs.length := by
  fun_induction readWord word cs with
  | case1 => injection h with h; simp [h]
  | case2 => contradiction
  | case3 w word cs ih => have := ih h; simp only [List.length_cons]; omega
  | case4 => contradiction

def readDigits (cs : List Char) : Except ReadFault (List Char × List Char) :=
  match cs with
  | [] => .error .endInValue
  | c :: rest =>
    if c.isDigit then .ok (c :: rest.takeWhile Char.isDigit, rest.dropWhile Char.isDigit)
    else .error .invalidNumber

/-- The digits before the point: a zero stands alone. -/
def readWhole (cs : List Char) : Except ReadFault (List Char × List Char) :=
  match readDigits cs with
  | .error fault => .error fault
  | .ok (digits, rest) =>
    if digits.head? = some '0' ∧ 1 < digits.length then .error .invalidNumber else .ok (digits, rest)

def readFraction (cs : List Char) : Except ReadFault (Option (List Char) × List Char) :=
  if cs.head? = some '.' then (readDigits cs.tail).map fun (digits, rest) => (some digits, rest)
  else .ok (none, cs)

def dropSign (cs : List Char) : Bool × List Char :=
  match cs with
  | [] => (false, [])
  | c :: rest => if c = '-' then (true, rest) else if c = '+' then (false, rest) else (false, c :: rest)

def readPower (cs : List Char) : Except ReadFault (Option Int × List Char) :=
  if cs.head? = some 'e' ∨ cs.head? = some 'E' then
    let (negative, after) := dropSign cs.tail
    (readDigits after).map fun (digits, rest) =>
      (some (if negative then -(Decimal.value digits : Int) else Decimal.value digits), rest)
  else .ok (none, cs)

def readNumeral (cs : List Char) : Except ReadFault (Number.Numeral × List Char) := do
  let negative := cs.head? = some '-'
  let (whole, cs) ← readWhole (if negative then cs.tail else cs)
  let (fraction, cs) ← readFraction cs
  let (power, cs) ← readPower cs
  return ({ negative, whole, fraction, power }, cs)

theorem readDigits_length {cs ds rest : List Char} (h : readDigits cs = .ok (ds, rest)) :
    rest.length < cs.length := by
  unfold readDigits at h
  split at h
  · contradiction
  · split at h
    · injection h with h
      injection h with _ h
      subst h
      exact Nat.lt_succ_of_le (List.dropWhile_suffix _).length_le
    · contradiction

theorem readWhole_length {cs ds rest : List Char} (h : readWhole cs = .ok (ds, rest)) :
    rest.length < cs.length := by
  unfold readWhole at h
  split at h
  · contradiction
  · split at h
    · contradiction
    · injection h with h
      injection h with h₁ h₂
      subst h₁ h₂
      exact readDigits_length ‹_›

theorem readFraction_length {cs rest : List Char} {ds : Option (List Char)}
    (h : readFraction cs = .ok (ds, rest)) : rest.length ≤ cs.length := by
  unfold readFraction at h
  split at h
  · cases hd : readDigits cs.tail with
    | error fault => rw [hd] at h; contradiction
    | ok p =>
      rw [hd] at h
      injection h with h
      injection h with _ h
      have hl := readDigits_length hd
      rw [h, List.length_tail] at hl
      omega
  · injection h with h
    injection h with _ h
    simp [h]

theorem dropSign_length (cs : List Char) : (dropSign cs).2.length ≤ cs.length := by
  unfold dropSign
  split
  · simp
  · split
    · simp
    · split <;> simp

theorem readPower_length {cs rest : List Char} {n : Option Int}
    (h : readPower cs = .ok (n, rest)) : rest.length ≤ cs.length := by
  unfold readPower at h
  split at h
  · cases hd : readDigits (dropSign cs.tail).2 with
    | error fault => simp only [hd] at h; contradiction
    | ok p =>
      simp only [hd] at h
      injection h with h
      injection h with _ h
      have hl := readDigits_length hd
      have hs := dropSign_length cs.tail
      rw [h] at hl
      rw [List.length_tail] at hs
      omega
  · injection h with h
    injection h with _ h
    simp [h]

theorem readNumeral_length {cs rest : List Char} {n : Number.Numeral}
    (h : readNumeral cs = .ok (n, rest)) : rest.length < cs.length := by
  unfold readNumeral at h
  simp only [bind, Except.bind] at h
  split at h
  · contradiction
  rename_i p hw
  split at h
  · contradiction
  rename_i q hf
  split at h
  · contradiction
  rename_i r hp
  injection h with h
  injection h with _ h
  have := readWhole_length hw
  have := readFraction_length hf
  have := readPower_length hp
  have : (if cs.head? = some '-' then cs.tail else cs).length ≤ cs.length := by
    split <;> simp
  subst h
  omega

def punctuation? : Char → Option Token
  | '[' => some .openArray
  | ']' => some .closeArray
  | '\x7b' => some .openObject
  | '\x7d' => some .closeObject
  | ',' => some .comma
  | ':' => some .colon
  | _ => none

def word? : Char → Option (List Char × Token)
  | 'n' => some (['u', 'l', 'l'], .null)
  | 't' => some (['r', 'u', 'e'], .bool true)
  | 'f' => some (['a', 'l', 's', 'e'], .bool false)
  | _ => none

def readString (cs : List Char) : Token × List Char :=
  match Quoted.body cs with
  | .ok (s, rest) => (.string (String.ofList s), rest)
  | .error fault =>
    match Quoted.skip cs with
    | .ok rest => (.oddString fault, rest)
    | .error outline => (.brokenString fault outline, [])

def readNumber (cs : List Char) : Token × List Char :=
  match readNumeral cs with
  | .error fault => (.brokenNumber fault, [])
  | .ok (numeral, rest) =>
    match Number.ofNumeral? numeral with
    | some n => (.number n, rest)
    | none => (.hugeNumber, rest)

def readLong (c : Char) (cs : List Char) : Token × List Char :=
  if c = '"' then readString cs
  else
    match word? c with
    | some (rest, token) =>
      match readWord rest cs with
      | .ok cs => (token, cs)
      | .error fault => (.broken fault, [])
    | none => if c = '-' ∨ c.isDigit then readNumber (c :: cs) else (.broken .noValue, [])

def read (c : Char) (cs : List Char) : Token × List Char :=
  match punctuation? c with
  | some token => (token, cs)
  | none => readLong c cs

theorem readString_length (cs : List Char) : (readString cs).2.length ≤ cs.length := by
  unfold readString
  split
  · exact Nat.le_of_lt (Quoted.body_length ‹_›)
  · split
    · exact Nat.le_of_lt (Quoted.skip_length ‹_›)
    · exact Nat.zero_le _

theorem readNumber_length (c : Char) (cs : List Char) :
    (readNumber (c :: cs)).2.length ≤ cs.length := by
  unfold readNumber
  split
  · exact Nat.zero_le _
  · split <;> exact Nat.le_of_lt_succ (readNumeral_length ‹_›)

theorem read_length (c : Char) (cs : List Char) : (read c cs).2.length ≤ cs.length := by
  unfold read readLong
  split
  · exact Nat.le_refl _
  split
  · exact readString_length cs
  split
  · split
    · exact readWord_length ‹_›
    · exact Nat.zero_le _
  split
  · exact readNumber_length c cs
  · exact Nat.zero_le _

end Token

def tokens : List Char → List Token
  | [] => []
  | c :: cs =>
    if Token.isSpace c then tokens cs
    else
      have : (Token.read c cs).2.length < cs.length + 1 := Nat.lt_succ_of_le (Token.read_length c cs)
      (Token.read c cs).1 :: tokens (Token.read c cs).2
termination_by cs => cs.length

end StorageQuery
