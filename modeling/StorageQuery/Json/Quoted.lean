import StorageQuery.Json.Fault
import StorageQuery.Text.Hex
/-!
Strings of a document. `encode` escapes the quote, the backslash and the control characters, and
`body` reads up to the closing quote. Where the characters do not matter, `skip` finds that quote.
-/

set_option autoImplicit false

namespace StorageQuery.Quoted

def escape (c : Char) : List Char :=
  if c = '\x08' then ['\\', 'b']
  else if c = '\t' then ['\\', 't']
  else if c = '\n' then ['\\', 'n']
  else if c = '\x0c' then ['\\', 'f']
  else if c = '\r' then ['\\', 'r']
  else if c = '"' then ['\\', '"']
  else if c = '\\' then ['\\', '\\']
  else ['\\', 'u', '0', '0'] ++ Hex.ofByte (UInt8.ofNat c.toNat)

def escapes (c : Char) : Bool := c.toNat < 32 || c == '"' || c == '\\'

def encodeChar (c : Char) : List Char := if escapes c then escape c else [c]

def encode (cs : List Char) : List Char := cs.flatMap encodeChar

def quote (cs : List Char) : List Char := '"' :: (encode cs ++ ['"'])

/-- Four hexadecimal digits. Fewer than four bytes of text count as its end, whatever they are. -/
def hex4 : List Char → Except ReadFault (Nat × List Char)
  | a :: b :: c :: d :: rest =>
    match Hex.value? a, Hex.value? b, Hex.value? c, Hex.value? d with
    | some a, some b, some c, some d => .ok (4096 * a + 256 * b + 16 * c + d, rest)
    | _, _, _, _ => .error .invalidEscape
  | cs => if (String.ofList cs).utf8ByteSize < 4 then .error .endInString else .error .invalidEscape

def lowSurrogate (high : Nat) : List Char → Except ReadFault (Char × List Char)
  | [] => .error .endInString
  | '\\' :: [] => .error .endInString
  | '\\' :: 'u' :: rest => do
    let (low, rest) ← hex4 rest
    if 0xDC00 ≤ low ∧ low ≤ 0xDFFF then
      return (Char.ofNat (0x10000 + (high - 0xD800) * 1024 + (low - 0xDC00)), rest)
    else .error .loneSurrogate
  | _ => .error .unfinishedPair

def unicodeEscape (cs : List Char) : Except ReadFault (Char × List Char) := do
  let (n, rest) ← hex4 cs
  if 0xDC00 ≤ n ∧ n ≤ 0xDFFF then .error .loneSurrogate
  else if 0xD800 ≤ n ∧ n ≤ 0xDBFF then lowSurrogate n rest
  else return (Char.ofNat n, rest)

def escaped : List Char → Except ReadFault (Char × List Char)
  | [] => .error .endInString
  | c :: rest =>
    if c = '"' ∨ c = '\\' ∨ c = '/' then .ok (c, rest)
    else if c = 'b' then .ok ('\x08', rest)
    else if c = 'f' then .ok ('\x0c', rest)
    else if c = 'n' then .ok ('\n', rest)
    else if c = 'r' then .ok ('\r', rest)
    else if c = 't' then .ok ('\t', rest)
    else if c = 'u' then unicodeEscape rest
    else .error .invalidEscape

def unit (c : Char) (rest : List Char) : Except ReadFault (Char × List Char) :=
  if c = '\\' then escaped rest
  else if c.toNat < 32 then .error .controlCharacter
  else .ok (c, rest)

theorem hex4_length {cs rest : List Char} {n : Nat} (h : hex4 cs = .ok (n, rest)) :
    rest.length < cs.length := by
  unfold hex4 at h
  split at h
  · split at h
    · injection h with h; injection h with _ h; subst h; simp only [List.length_cons]; omega
    · contradiction
  · split at h <;> contradiction

theorem lowSurrogate_length {n : Nat} {cs rest : List Char} {c : Char}
    (h : lowSurrogate n cs = .ok (c, rest)) : rest.length < cs.length := by
  unfold lowSurrogate at h
  split at h
  · contradiction
  · contradiction
  · cases h4 : hex4 ‹_› with
    | error e => simp [h4, bind, Except.bind] at h
    | ok p =>
      have hl := hex4_length h4
      simp only [h4, bind, Except.bind] at h
      split at h
      · injection h with h; injection h with _ h; subst h; simp only [List.length_cons]; omega
      · contradiction
  · contradiction

theorem unicodeEscape_length {cs rest : List Char} {c : Char}
    (h : unicodeEscape cs = .ok (c, rest)) : rest.length < cs.length := by
  unfold unicodeEscape at h
  cases h4 : hex4 cs with
  | error e => simp [h4, bind, Except.bind] at h
  | ok p =>
    have hl := hex4_length h4
    simp only [h4, bind, Except.bind] at h
    split at h
    · contradiction
    · split at h
      · have := lowSurrogate_length h; omega
      · injection h with h; injection h with _ h; subst h; exact hl

theorem escaped_length {cs rest : List Char} {c : Char} (h : escaped cs = .ok (c, rest)) :
    rest.length < cs.length := by
  unfold escaped at h
  split at h
  · contradiction
  · iterate 6
      split at h
      · injection h with h; injection h with _ h; subst h; simp
    split at h
    · have := unicodeEscape_length h; simp only [List.length_cons]; omega
    · contradiction

theorem unit_length {d c : Char} {cs rest : List Char} (h : unit d cs = .ok (c, rest)) :
    rest.length ≤ cs.length := by
  unfold unit at h
  split at h
  · exact Nat.le_of_lt (escaped_length h)
  · split at h
    · contradiction
    · injection h with h; injection h with _ h; subst h; exact Nat.le_refl _

def body (cs : List Char) : Except ReadFault (List Char × List Char) :=
  match cs with
  | [] => .error .endInString
  | c :: cs =>
    if c = '"' then .ok ([], cs)
    else
      match h : unit c cs with
      | .error e => .error e
      | .ok (d, rest) =>
        have : rest.length < cs.length + 1 := Nat.lt_succ_of_le (unit_length h)
        (body rest).map fun (s, rest) => (d :: s, rest)
termination_by cs.length

theorem body_length {cs s rest : List Char} (h : body cs = .ok (s, rest)) :
    rest.length < cs.length := by
  fun_induction body cs generalizing s rest with
  | case1 => contradiction
  | case2 cs => injection h with h; injection h with _ h; subst h; simp
  | case3 => contradiction
  | case4 c cs hc d rest' hu _ ih =>
    have hl := unit_length hu
    cases hb : body rest' with
    | error e => rw [hb] at h; contradiction
    | ok p =>
      rw [hb] at h
      injection h with h
      injection h with _ h
      have := ih hb
      subst h
      simp only [List.length_cons]
      omega

/-- The text after an escape, which need not stand for a character. -/
def skipEscape : List Char → Except ReadFault (List Char)
  | [] => .error .endInString
  | c :: rest =>
    if c = 'u' then (hex4 rest).map Prod.snd
    else if ['"', '\\', '/', 'b', 'f', 'n', 'r', 't'].contains c then .ok rest
    else .error .invalidEscape

theorem skipEscape_length {cs rest : List Char} (h : skipEscape cs = .ok rest) :
    rest.length < cs.length := by
  unfold skipEscape at h
  split at h
  · contradiction
  · split at h
    · cases h4 : hex4 ‹_› with
      | error e => rw [h4] at h; contradiction
      | ok p =>
        rw [h4] at h
        injection h with h
        have := hex4_length h4
        subst h
        simp only [List.length_cons]
        omega
    · split at h
      · injection h with h; subst h; simp
      · contradiction

def skip (cs : List Char) : Except ReadFault (List Char) :=
  match cs with
  | [] => .error .endInString
  | c :: cs =>
    if c = '"' then .ok cs
    else if c = '\\' then
      match h : skipEscape cs with
      | .error e => .error e
      | .ok rest =>
        have : rest.length < cs.length + 1 := Nat.lt_succ_of_lt (skipEscape_length h)
        skip rest
    else if c.toNat < 32 then .error .controlCharacter
    else skip cs
termination_by cs.length

theorem skip_length {cs rest : List Char} (h : skip cs = .ok rest) : rest.length < cs.length := by
  fun_induction skip cs with
  | case1 => contradiction
  | case2 cs => injection h with h; subst h; simp
  | case3 => contradiction
  | case4 cs rest' he _ _ ih =>
    have := skipEscape_length he
    have := ih h
    simp only [List.length_cons]
    omega
  | case5 => contradiction
  | case6 c cs _ _ _ ih => have := ih h; simp only [List.length_cons]; omega

theorem body_quote (rest : List Char) : body ('"' :: rest) = .ok ([], rest) := by
  rw [body]; rfl

theorem body_unit {d c : Char} {cs rest : List Char} (hd : d ≠ '"')
    (h : unit d cs = .ok (c, rest)) :
    body (d :: cs) = (body rest).map fun (s, rest) => (c :: s, rest) := by
  rw [body, if_neg hd]
  split
  · simp_all
  · simp_all

end StorageQuery.Quoted
