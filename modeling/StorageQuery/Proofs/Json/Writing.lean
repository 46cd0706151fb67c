import StorageQuery.Json.Printer
import StorageQuery.Proofs.Number.Numeral
set_option autoImplicit false

namespace StorageQuery.Json

open Spelling

theorem code_ofByte (b : UInt8) : Code ('0' :: '0' :: Hex.ofByte b) b.toNat := by
  have hb := b.toNat_lt
  have hhigh := Hex.value?_digit (show b.toNat / 16 < 16 by omega)
  have hlow := Hex.value?_digit (show b.toNat % 16 < 16 by omega)
  have hzero : Hex.value? '0' = some 0 := rfl
  have hvalue : b.toNat = 4096 * 0 + 256 * 0 + 16 * (b.toNat / 16) + b.toNat % 16 := by omega
  have hcode := Code.mk hzero hzero hhigh hlow
  rw [← hvalue] at hcode
  exact hcode

theorem inside_encodeChar (c : Char) {cs s : List Char} (h : Inside cs s) :
    Inside (StorageQuery.Quoted.encodeChar c ++ cs) (c :: s) := by
  have hshort {e : Char} (hm : (e, c) ∈ shortEscapes) : Inside (['\\', e] ++ cs) (c :: s) := .short hm h
  rw [StorageQuery.Quoted.encodeChar]
  split
  · rename_i hescapes
    rw [StorageQuery.Quoted.escape]
    iterate 7
      split
      · rename_i heq
        exact hshort (by rw [heq]; decide)
    -- what has no letter is a control character
    rename_i hquote hslash
    have hcontrol : c.toNat < 32 := by simpa [StorageQuery.Quoted.escapes, hquote, hslash] using hescapes
    have hcode := code_ofByte (UInt8.ofNat c.toNat)
    have hbyte : (UInt8.ofNat c.toNat).toNat = c.toNat := by
      simp
      omega
    rw [hbyte] at hcode
    have hinside := Inside.code hcode (by omega) h
    rw [Char.ofNat_toNat] at hinside
    exact hinside
  · rename_i hescapes
    simp only [StorageQuery.Quoted.escapes, Bool.or_eq_true, decide_eq_true_eq, beq_iff_eq, not_or] at hescapes
    exact .plain (by omega) hescapes.1.2 hescapes.2 h

theorem inside_encode (s : List Char) : Inside (StorageQuery.Quoted.encode s) s := by
  induction s with
  | nil => exact .nil
  | cons c s ih => exact inside_encodeChar c ih

theorem quoted_spelling (s : String) : Spelling.Quoted (quoted s) s := .mk (inside_encode s.toList)

theorem blank_nil : Blank [] := nofun

theorem blank_newLine (depth : Nat) : Blank (newLine depth) := by
  intro c hm
  rcases List.mem_cons.1 hm with rfl | hm
  · exact .inr (.inl rfl)
  · exact .inl (List.eq_of_mem_replicate hm)

theorem element_of_value {cs : List Char} {json : Json} (h : Value cs json) : Element cs json := by
  have helement := Element.mk blank_nil h blank_nil
  rwa [List.append_nil] at helement

theorem member_of_quoted (name : String) {cs : List Char} {value : Json} (h : Element cs value)
    {before : List Char} (hb : Blank before) : Member (before ++ (quoted name ++ ':' :: cs)) (name, value) :=
  .mk hb (quoted_spelling name) blank_nil h

mutual
theorem value_compact : (json : Json) → Value json.compact json
  | .null => .null
  | .bool true => .true
  | .bool false => .false
  | .number n => .number n.numeral_chars
  | .string s => .string (quoted_spelling s)
  | .array [] => .emptyArray blank_nil
  | .array (item :: rest) => .array (elements_compact (item :: rest) nofun)
  | .object [] => .emptyObject blank_nil
  | .object (member :: rest) => .object (members_compact (member :: rest) nofun)
theorem elements_compact : (items : List Json) → items ≠ [] → Elements (compactItems items) items
  | [], h => absurd rfl h
  | [item], _ => .one (element_of_value (value_compact item))
  | item :: next :: rest, _ =>
    .more (element_of_value (value_compact item)) (elements_compact (next :: rest) nofun)
theorem members_compact : (members : List (String × Json)) → members ≠ [] →
    Members (compactMembers members) members
  | [], h => absurd rfl h
  | [(name, value)], _ => .one (member_of_quoted name (element_of_value (value_compact value)) blank_nil)
  | (name, value) :: next :: rest, _ => by
    have hfirst := member_of_quoted name (element_of_value (value_compact value)) blank_nil
    have hmembers := Members.more hfirst (members_compact (next :: rest) nofun)
    rw [compactMembers]
    · simpa using hmembers
    · nofun
end

theorem element_pretty {cs after : List Char} {json : Json} (h : Value cs json) (depth : Nat)
    (ha : Blank after) : Element (newLine depth ++ cs ++ after) json := by
  rw [List.append_assoc]
  exact .mk (blank_newLine depth) h ha

theorem blank_space : Blank [' '] := by
  intro c hm
  exact .inl (List.mem_singleton.1 hm)

theorem member_pretty {cs after : List Char} {value : Json} (h : Value cs value) (depth : Nat) (name : String)
    (ha : Blank after) : Member (newLine depth ++ quoted name ++ ':' :: ' ' :: cs ++ after) (name, value) := by
  have hvalue : Element (' ' :: (cs ++ after)) value := Element.mk blank_space h ha
  have hmember := member_of_quoted name hvalue (blank_newLine depth)
  simpa using hmember

mutual
theorem value_pretty : (json : Json) → (depth : Nat) → Value (json.pretty depth) json
  | .null, _ => .null
  | .bool true, _ => .true
  | .bool false, _ => .false
  | .number n, _ => .number n.numeral_chars
  | .string s, _ => .string (quoted_spelling s)
  | .array [], _ => .emptyArray blank_nil
  | .array (item :: rest), depth =>
    .array (elements_pretty (item :: rest) nofun (depth + 1) (blank_newLine depth))
  | .object [], _ => .emptyObject blank_nil
  | .object (member :: rest), depth =>
    .object (members_pretty (member :: rest) nofun (depth + 1) (blank_newLine depth))
theorem elements_pretty : (items : List Json) → items ≠ [] → (depth : Nat) → {after : List Char} →
    Blank after → Elements (prettyItems depth items ++ after) items
  | [], h, _, _, _ => absurd rfl h
  | [item], _, depth, _, ha => .one (element_pretty (value_pretty item depth) depth ha)
  | item :: next :: rest, _, depth, after, ha => by
    have hfirst := element_pretty (value_pretty item depth) depth blank_nil
    have hrest := elements_pretty (next :: rest) nofun depth ha
    rw [List.append_nil] at hfirst
    have helements := Elements.more hfirst hrest
    rw [prettyItems, List.append_assoc, List.cons_append]
    · exact helements
    · nofun
theorem members_pretty : (members : List (String × Json)) → members ≠ [] → (depth : Nat) →
    {after : List Char} → Blank after → Members (prettyMembers depth members ++ after) members
  | [], h, _, _, _ => absurd rfl h
  | [(name, value)], _, depth, _, ha => .one (member_pretty (value_pretty value depth) depth name ha)
  | (name, value) :: next :: rest, _, depth, after, ha => by
    have hfirst := member_pretty (value_pretty value depth) depth name blank_nil
    have hrest := members_pretty (next :: rest) nofun depth ha
    rw [List.append_nil] at hfirst
    have hmembers := Members.more hfirst hrest
    rw [prettyMembers]
    · simpa using hmembers
    · nofun
end

theorem spells_text (json : Json) : Spells json.text json := by
  rw [Spells, text, String.toList_ofList]
  exact element_of_value (value_compact json)

theorem spells_prettyText (json : Json) : Spells json.prettyText json := by
  rw [Spells, prettyText, String.toList_ofList]
  exact element_of_value (value_pretty json 0)

end StorageQuery.Json
