import StorageQuery.Text.Hex
import StorageQuery.Text.Split
set_option autoImplicit false

namespace StorageQuery.Text

/-- Successive characters, each with the text that stands for it, if there is one. -/
structure Row where
  first : Nat
  texts : List (Option (List Char))

namespace Row

/-- A word of a row: a dot for a character without a text, two code points with a hyphen between them
for as many characters as lie between the two, or a text, its code points joined by plus signs. -/
def readWord (word : List Char) : List (Option (List Char)) :=
  match split '-' word with
  | [low, high] =>
    (List.range' (Hex.read low) (Hex.read high + 1 - Hex.read low)).map fun n => some [Char.ofNat n]
  | _ =>
    if word = ['.'] then [none]
    else [some ((split '+' word).map fun digits => Char.ofNat (Hex.read digits))]

/-- The first code point of the row comes first, then a word for each character or several. -/
def read (source : String) : Row :=
  match split ' ' source.toList with
  | [] => ⟨0, []⟩
  | first :: words => ⟨Hex.read first, words.flatMap readWord⟩

def find? (rows : List Row) (c : Char) : Option (List Char) :=
  rows.findSome? fun row =>
    if row.first ≤ c.toNat then (row.texts[c.toNat - row.first]?).join else none

def source? (rows : List Row) (text : List Char) : Option Char :=
  rows.findSome? fun row =>
    (row.texts.findIdx? (· == some text)).map fun i => Char.ofNat (row.first + i)

end Row

end StorageQuery.Text
