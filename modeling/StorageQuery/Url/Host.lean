import StorageQuery.Text.Decimal
import StorageQuery.Url.Domain.Basic
import StorageQuery.Url.Percent
set_option autoImplicit false

namespace StorageQuery

inductive UrlFault where
  | relative
  | emptyHost
  | invalidPort
  | invalidIpv4
  | invalidIpv6
  | invalidDomain
  | invalidDomainCharacter
  deriving DecidableEq, Repr

def UrlFault.message : UrlFault → String
  | .relative => "relative URL without a base"
  | .emptyHost => "empty host"
  | .invalidPort => "invalid port number"
  | .invalidIpv4 => "invalid IPv4 address"
  | .invalidIpv6 => "invalid IPv6 address"
  | .invalidDomain => "invalid international domain name"
  | .invalidDomainCharacter => "invalid domain character"

inductive Host where
  | domain (name : List Char)
  | ipv4 (address : Nat)
  | ipv6 (pieces : List Nat)
  deriving DecidableEq, Repr

namespace Host

inductive Radix where
  | octal
  | decimal
  | hexadecimal

def Radix.base : Radix → Nat
  | .octal => 8
  | .decimal => 10
  | .hexadecimal => 16

/-- A number in base eight after a zero, in base sixteen after `0x`, otherwise in base ten. -/
def readNumber? (cs : List Char) : Option Nat :=
  let (radix, digits) := match cs with
    | '0' :: 'x' :: rest | '0' :: 'X' :: rest => (Radix.hexadecimal, rest)
    | '0' :: c :: rest => (.octal, c :: rest)
    | cs => (.decimal, cs)
  if cs.isEmpty then none
  else digits.foldl (fun sum c =>
    sum.bind fun n => ((Hex.value? c).filter (· < radix.base)).map (radix.base * n + ·)) (some 0)

def dropEmptyLast (parts : List (List Char)) : List (List Char) :=
  if 1 < parts.length ∧ parts.getLast? = some [] then parts.dropLast else parts

def endsInNumber (domain : List Char) : Bool :=
  match (dropEmptyLast (Text.split '.' domain)).getLast? with
  | some last => (!last.isEmpty && last.all Char.isDigit) || (readNumber? last).isSome
  | none => false

/-- The last number fills all places that the numbers before it leave. -/
def readIpv4 (domain : List Char) : Except UrlFault Host :=
  let parts := dropEmptyLast (Text.split '.' domain)
  match parts.mapM readNumber? with
  | none => .error .invalidIpv4
  | some numbers =>
    let firsts := numbers.dropLast
    let last := numbers.getLast?.getD 0
    if 4 < numbers.length ∨ firsts.any (255 < ·) ∨ Nat.pow 256 (4 - firsts.length) ≤ last then
      .error .invalidIpv4
    else .ok (.ipv4 (firsts.foldl (fun sum n => 256 * sum + n) 0 * Nat.pow 256 (4 - firsts.length) + last))

def readPiece? (cs : List Char) : Option Nat :=
  if cs.isEmpty ∨ 4 < cs.length then none
  else cs.foldl (fun sum c => sum.bind fun n => (Hex.value? c).map (16 * n + ·)) (some 0)

/-- Four numbers below 256 without leading zeros, as two pieces. -/
def readDotted? (cs : List Char) : Option (List Nat) := do
  let numbers ← (Text.split '.' cs).mapM fun part => do
    let n ← Decimal.readDigits? part
    if n < 256 ∧ Decimal.digits n = part then some n else none
  match numbers with
  | [a, b, c, d] => some [256 * a + b, 256 * c + d]
  | _ => none

def readPieces? (dotted : Bool) : List (List Char) → Option (List Nat)
  | [] => some []
  | [last] =>
    match readPiece? last with
    | some piece => some [piece]
    | none => if dotted then readDotted? last else none
  | part :: rest => do
    let piece ← readPiece? part
    return piece :: (← readPieces? dotted rest)

def readGroup? (dotted : Bool) (cs : List Char) : Option (List Nat) :=
  if cs.isEmpty then some [] else readPieces? dotted (Text.split ':' cs)

def cutAtGap : List Char → Option (List Char × List Char)
  | ':' :: ':' :: rest => some ([], rest)
  | c :: rest => (cutAtGap rest).map fun (before, after) => (c :: before, after)
  | [] => none

def readIpv6 (cs : List Char) : Except UrlFault Host :=
  let pieces? := match cutAtGap cs with
    | none => (readGroup? true cs).filter (·.length = 8)
    | some (before, after) => do
      let left ← readGroup? false before
      let right ← readGroup? true after
      let known := left.length + right.length
      if known ≤ 7 then some (left ++ List.replicate (8 - known) 0 ++ right) else none
  match pieces? with
  | some pieces => .ok (.ipv6 pieces)
  | none => .error .invalidIpv6

def readBracketed (cs : List Char) : Except UrlFault Host :=
  if cs.getLast? = some ']' then readIpv6 (cs.drop 1).dropLast else .error .invalidIpv6

def read (cs : List Char) : Except UrlFault Host :=
  if cs.head? = some '[' then readBracketed cs
  else
    match Domain.ofBytes? (Percent.decode cs) with
    | none => .error .invalidDomain
    | some [] => .error .emptyHost
    | some name => if endsInNumber name then readIpv4 name else .ok (.domain name)

def readPlain (cs : List Char) : Except UrlFault Host :=
  if cs.head? = some '[' then readBracketed cs
  else if cs.any fun c => "\x00\t\n\r #/:<>?@[\\]^|".toList.contains c then .error .invalidDomainCharacter
  else .ok (.domain (Percent.encode Percent.controls cs))

/-- The longest run of zeros, two at least: how many pieces stand before it, and its length. -/
def gap? (pieces : List Nat) : Option (Nat × Nat) :=
  (List.range pieces.length).foldl (fun best i =>
    let run := ((pieces.drop i).takeWhile (· == 0)).length
    if (best.map Prod.snd).getD 1 < run then some (i, run) else best) none

def pieceTexts (pieces : List Nat) : List Char :=
  ((pieces.map (Nat.toDigits 16)).intersperse [':']).flatten

def chars : Host → List Char
  | .domain name => name
  | .ipv4 address =>
    (([3, 2, 1, 0].map fun i => Decimal.digits (address / Nat.pow 256 i % 256)).intersperse ['.']).flatten
  | .ipv6 pieces =>
    match gap? pieces with
    | none => '[' :: (pieceTexts pieces ++ [']'])
    | some (start, run) =>
      '[' :: (pieceTexts (pieces.take start) ++ [':', ':'] ++ pieceTexts (pieces.drop (start + run)) ++ [']'])

end Host

end StorageQuery
