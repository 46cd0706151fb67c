import Mathlib.Data.List.Basic
import StorageQuery.Proofs.Key.Encoding
import StorageQuery.Proofs.Text.Decimal
set_option autoImplicit false

namespace StorageQuery

def Plain (cs : List Char) : Prop := ∀ c ∈ cs, 32 ≤ c.toNat

instance (cs : List Char) : Decidable (Plain cs) := List.decidableBAll (fun c : Char => 32 ≤ c.toNat) cs

namespace Plain

theorem append {as bs : List Char} (ha : Plain as) (hb : Plain bs) : Plain (as ++ bs) :=
  List.forall_mem_append.2 ⟨ha, hb⟩

theorem cons {c : Char} {cs : List Char} (hc : 32 ≤ c.toNat) (h : Plain cs) : Plain (c :: cs) :=
  List.forall_mem_cons.2 ⟨hc, h⟩

theorem of_digits {cs : List Char} (h : ∀ c ∈ cs, c.isDigit = true) : Plain cs := by
  intro c hc
  have hlow := (Decimal.toNat_of_isDigit (h c hc)).1
  omega

theorem zeros (n : Nat) : Plain (List.replicate n '0') :=
  of_digits fun _ hc => Decimal.isDigit_of_mem_zeros hc

theorem digits (n : Nat) : Plain (Decimal.digits n) :=
  of_digits fun _ hc => Decimal.isDigit_of_mem_digits hc

end Plain

theorem Decimal.plain_ofInt (n : Int) : Plain (Decimal.ofInt n) := by
  cases n with
  | ofNat n => exact Plain.digits n
  | negSucc n => exact .cons (by decide) (Plain.digits (n + 1))

theorem Decimal.exists_ofInt (n : Int) : ∃ c ∈ Decimal.ofInt n, c ≠ '.' := by
  cases n with
  | ofNat n =>
    obtain ⟨c, hc⟩ := List.exists_mem_of_ne_nil _ (Decimal.digits_ne_nil n)
    refine ⟨c, hc, ?_⟩
    rintro rfl
    exact absurd (Decimal.isDigit_of_mem_digits hc) (by decide)
  | negSucc n => exact ⟨'-', List.mem_cons_self, by decide⟩

namespace Double

variable {d : DecimalForm}

theorem isDigit_of_mem_shortest {m : Nat} {c : Char} (h : c ∈ (shortest m).digits) :
    c.isDigit = true := by
  have hmem := List.mem_reverse.1 h
  exact Decimal.isDigit_of_mem_digits (List.mem_reverse.1 ((List.dropWhile_sublist _).subset hmem))

theorem DecimalForm.plain_text (h : Plain d.digits) : Plain d.text := by
  have htake (n : Nat) : Plain (d.digits.take n) := fun c hc => h c (List.mem_of_mem_take hc)
  have hdrop (n : Nat) : Plain (d.digits.drop n) := fun c hc => h c (List.mem_of_mem_drop hc)
  simp only [DecimalForm.text]
  split
  · split
    · exact (h.append (Plain.zeros _)).append (by decide)
    · exact (htake _).append (.cons (by decide) (hdrop _))
  split
  · exact .cons (by decide) (.cons (by decide) ((Plain.zeros _).append h))
  · have hfraction : Plain (if (d.digits.length : Int) = 1 then [] else '.' :: d.digits.drop 1) := by
      split
      · exact List.forall_mem_nil _
      · exact .cons (by decide) (hdrop 1)
    refine ((htake 1).append hfraction).append (.cons (by decide) (.cons ?_ (Plain.digits _)))
    split <;> decide

theorem DecimalForm.exists_text (h : '.' ∉ d.digits) : ∃ c ∈ d.text, c ≠ '.' := by
  simp only [DecimalForm.text]
  split
  · split
    · exact ⟨'0', by simp, by decide⟩
    · rename_i hpoint hlength
      obtain ⟨c, hc⟩ : ∃ c, c ∈ d.digits.take d.point.toNat := by
        refine List.exists_mem_of_ne_nil _ fun hnil => ?_
        have hlen := congrArg List.length hnil
        rw [List.length_take, List.length_nil] at hlen
        omega
      exact ⟨c, List.mem_append_left _ hc, fun heq => h (heq ▸ List.mem_of_mem_take hc)⟩
  split
  · exact ⟨'0', List.mem_cons_self, by decide⟩
  · exact ⟨'e', by simp, by decide⟩

theorem plain_text (x : Double) : Plain x.text := by
  have hbody : Plain (if x.magnitude = 0 then ['0', '.', '0'] else (shortest x.magnitude).text) := by
    split
    · decide
    · exact DecimalForm.plain_text (.of_digits fun _ hc => isDigit_of_mem_shortest hc)
  rw [text]
  split
  · exact .cons (by decide) hbody
  · exact hbody

theorem exists_text (x : Double) : ∃ c ∈ x.text, c ≠ '.' := by
  rw [text]
  split
  · exact ⟨'-', List.mem_cons_self, by decide⟩
  split
  · exact ⟨'0', by decide, by decide⟩
  · refine DecimalForm.exists_text fun hdot => ?_
    exact absurd (isDigit_of_mem_shortest hdot) (by decide)

end Double

namespace Number

theorem plain_chars (n : Number) : Plain n.chars := by
  cases n with
  | integer value _ => exact Decimal.plain_ofInt value
  | real x => exact x.plain_text

theorem exists_chars (n : Number) : ∃ c ∈ n.chars, c ≠ '.' := by
  cases n with
  | integer value _ => exact Decimal.exists_ofInt value
  | real x => exact x.exists_text

end Number

theorem Hex.plain_ofByte (b : UInt8) : Plain (Hex.ofByte b) := by
  have hdigit : ∀ n < 16, 32 ≤ (Hex.digit n).toNat := by decide
  have hb := b.toNat_lt
  exact .cons (hdigit _ (by omega)) (.cons (hdigit _ (by omega)) (List.forall_mem_nil _))

namespace Quoted

theorem plain_escape (c : Char) : Plain (escape c) := by
  rw [escape]
  iterate 7
    split
    · decide
  exact Plain.append (by decide) (Hex.plain_ofByte _)

theorem plain_encodeChar (c : Char) : Plain (encodeChar c) := by
  rw [encodeChar]
  split
  · exact plain_escape c
  · rename_i h
    simp only [escapes, Bool.or_eq_true, not_or, decide_eq_true_eq] at h
    exact .cons (by omega) (List.forall_mem_nil _)

theorem plain_quote (cs : List Char) : Plain (quote cs) := by
  have hencode : Plain (encode cs) := by
    intro c hc
    obtain ⟨d, -, hd⟩ := List.mem_flatMap.1 hc
    exact plain_encodeChar d c hd
  exact .cons (by decide) (hencode.append (by decide))

end Quoted

namespace Json

mutual
theorem plain_compact : (json : Json) → Plain json.compact
  | .null => by decide
  | .bool true => by decide
  | .bool false => by decide
  | .number n => n.plain_chars
  | .string s => Quoted.plain_quote s.toList
  | .array items => .cons (by decide) ((plain_compactItems items).append (by decide))
  | .object members => .cons (by decide) ((plain_compactMembers members).append (by decide))
theorem plain_compactItems : (items : List Json) → Plain (compactItems items)
  | [] => List.forall_mem_nil _
  | [item] => plain_compact item
  | item :: next :: rest =>
    (plain_compact item).append (.cons (by decide) (plain_compactItems (next :: rest)))
theorem plain_compactMembers : (members : List (String × Json)) → Plain (compactMembers members)
  | [] => List.forall_mem_nil _
  | [(name, value)] => (Quoted.plain_quote name.toList).append (.cons (by decide) (plain_compact value))
  | (name, value) :: next :: rest =>
    ((Quoted.plain_quote name.toList).append (.cons (by decide) (plain_compact value))).append
      (.cons (by decide) (plain_compactMembers (next :: rest)))
end

end Json

namespace Key

/-- A key that is not a text is asked for under a text without control characters, and not under dots. -/
theorem plain_requestText {key : Key} (h : ∀ s, key ≠ .string s) :
    Plain key.requestText.toList ∧ ∃ c ∈ key.requestText.toList, c ≠ '.' := by
  cases key with
  | string s => exact absurd rfl (h s)
  | bool b =>
    cases b with
    | false => exact ⟨by decide, 'f', by decide, by decide⟩
    | true => exact ⟨by decide, 't', by decide, by decide⟩
  | number n =>
    have htext : (number n).requestText.toList = n.chars := String.toList_ofList
    rw [htext]
    exact ⟨n.plain_chars, n.exists_chars⟩
  | composite fields =>
    have htext : (composite fields).requestText.toList = (composite fields).toJson.compact := by
      rw [requestText_of_composite rfl]
      exact String.toList_ofList
    rw [htext]
    exact ⟨Json.plain_compact _, '\x7b', List.mem_cons_self, by decide⟩

end Key

end StorageQuery
