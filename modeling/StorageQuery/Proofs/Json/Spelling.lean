import StorageQuery.Json.Basic
import StorageQuery.Text.Hex
/-!
The grammar of documents as texts. It says of a text which document it spells, with all members in their
order, repeated ones too. It mentions neither the reader nor the writer, but for the numeral of a number.
-/

set_option autoImplicit false

namespace StorageQuery.Json.Spelling

def IsBlank (c : Char) : Prop := c = ' ' ∨ c = '\n' ∨ c = '\t' ∨ c = '\r'

def Blank (cs : List Char) : Prop := ∀ c ∈ cs, IsBlank c

def Digits (cs : List Char) : Prop := cs ≠ [] ∧ ∀ c ∈ cs, c.isDigit = true

inductive Whole : List Char → Prop where
  | zero : Whole ['0']
  | digits {c : Char} {cs : List Char} : c.isDigit = true → c ≠ '0' → (∀ d ∈ cs, d.isDigit = true) →
    Whole (c :: cs)

inductive Fraction : List Char → Prop where
  | none : Fraction []
  | some {cs : List Char} : Digits cs → Fraction ('.' :: cs)

inductive Power : List Char → Prop where
  | none : Power []
  | some {e : Char} {sign cs : List Char} : e = 'e' ∨ e = 'E' → sign = [] ∨ sign = ['+'] ∨ sign = ['-'] →
    Digits cs → Power (e :: (sign ++ cs))

inductive Numeral : List Char → Prop where
  | mk {sign whole fraction power : List Char} : sign = [] ∨ sign = ['-'] → Whole whole →
    Fraction fraction → Power power → Numeral (sign ++ (whole ++ (fraction ++ power)))

def shortEscapes : List (Char × Char) :=
  [('"', '"'), ('\\', '\\'), ('/', '/'), ('b', '\x08'), ('f', '\x0c'), ('n', '\n'), ('r', '\r'),
    ('t', '\t')]

inductive Code : List Char → Nat → Prop where
  | mk {a b c d : Char} {w x y z : Nat} : Hex.value? a = some w → Hex.value? b = some x →
    Hex.value? c = some y → Hex.value? d = some z →
    Code [a, b, c, d] (4096 * w + 256 * x + 16 * y + z)

/-- What stands between the quotes, and the characters that it says. -/
inductive Inside : List Char → List Char → Prop where
  | nil : Inside [] []
  | plain {c : Char} {cs s : List Char} : 32 ≤ c.toNat → c ≠ '"' → c ≠ '\\' → Inside cs s →
    Inside (c :: cs) (c :: s)
  | short {e c : Char} {cs s : List Char} : (e, c) ∈ shortEscapes → Inside cs s →
    Inside ('\\' :: e :: cs) (c :: s)
  | code {ds : List Char} {n : Nat} {cs s : List Char} : Code ds n → ¬ (0xD800 ≤ n ∧ n ≤ 0xDFFF) →
    Inside cs s → Inside ('\\' :: 'u' :: (ds ++ cs)) (Char.ofNat n :: s)
  /-- A character beyond four digits is said by two halves. -/
  | pair {ds ds' : List Char} {high low : Nat} {cs s : List Char} : Code ds high → Code ds' low →
    0xD800 ≤ high ∧ high ≤ 0xDBFF → 0xDC00 ≤ low ∧ low ≤ 0xDFFF → Inside cs s →
    Inside ('\\' :: 'u' :: (ds ++ '\\' :: 'u' :: (ds' ++ cs)))
      (Char.ofNat (0x10000 + (high - 0xD800) * 1024 + (low - 0xDC00)) :: s)

inductive Quoted : List Char → String → Prop where
  | mk {cs : List Char} {s : String} : Inside cs s.toList → Quoted ('"' :: (cs ++ ['"'])) s

mutual
inductive Value : List Char → Json → Prop where
  | null : Value ['n', 'u', 'l', 'l'] .null
  | true : Value ['t', 'r', 'u', 'e'] (.bool Bool.true)
  | false : Value ['f', 'a', 'l', 's', 'e'] (.bool Bool.false)
  | number {n : Number} : Numeral n.chars → Value n.chars (.number n)
  | string {cs : List Char} {s : String} : Quoted cs s → Value cs (.string s)
  | emptyArray {blank : List Char} : Blank blank → Value ('[' :: (blank ++ [']'])) (.array [])
  | array {cs : List Char} {items : List Json} : Elements cs items →
    Value ('[' :: (cs ++ [']'])) (.array items)
  | emptyObject {blank : List Char} : Blank blank → Value ('\x7b' :: (blank ++ ['\x7d'])) (.object [])
  | object {cs : List Char} {members : List (String × Json)} : Members cs members →
    Value ('\x7b' :: (cs ++ ['\x7d'])) (.object members)
inductive Element : List Char → Json → Prop where
  | mk {before cs after : List Char} {json : Json} : Blank before → Value cs json → Blank after →
    Element (before ++ (cs ++ after)) json
inductive Elements : List Char → List Json → Prop where
  | one {cs : List Char} {item : Json} : Element cs item → Elements cs [item]
  | more {cs others : List Char} {item : Json} {items : List Json} : Element cs item →
    Elements others items → Elements (cs ++ ',' :: others) (item :: items)
inductive Member : List Char → String × Json → Prop where
  | mk {before cs after rest : List Char} {name : String} {value : Json} : Blank before →
    Quoted cs name → Blank after → Element rest value →
    Member (before ++ (cs ++ (after ++ ':' :: rest))) (name, value)
inductive Members : List Char → List (String × Json) → Prop where
  | one {cs : List Char} {member : String × Json} : Member cs member → Members cs [member]
  | more {cs others : List Char} {member : String × Json} {members : List (String × Json)} :
    Member cs member → Members others members → Members (cs ++ ',' :: others) (member :: members)
end

end StorageQuery.Json.Spelling

namespace StorageQuery

/-- The text is that of the document, blanks around it left aside. -/
def Json.Spells (text : String) (json : Json) : Prop := Json.Spelling.Element text.toList json

end StorageQuery
