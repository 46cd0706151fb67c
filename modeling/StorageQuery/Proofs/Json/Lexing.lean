import StorageQuery.Json.Token
import StorageQuery.Proofs.Json.Spelling
import StorageQuery.Proofs.Json.Within
import StorageQuery.Proofs.Number.Numeral
set_option autoImplicit false

namespace StorageQuery

open Json.Spelling

namespace Json

mutual
def tokenList : Json → List Token
  | .null => [.null]
  | .bool b => [.bool b]
  | .number n => [.number n]
  | .string s => [.string s]
  | .array items => .openArray :: (itemTokens items ++ [.closeArray])
  | .object members => .openObject :: (memberTokens members ++ [.closeObject])
def itemTokens : List Json → List Token
  | [] => []
  | [item] => tokenList item
  | item :: rest => tokenList item ++ .comma :: itemTokens rest
def memberTokens : List (String × Json) → List Token
  | [] => []
  | [(name, value)] => .string name :: .colon :: tokenList value
  | (name, value) :: rest => .string name :: .colon :: (tokenList value ++ .comma :: memberTokens rest)
end

theorem itemTokens_cons (item : Json) {rest : List Json} (h : rest ≠ []) :
    itemTokens (item :: rest) = item.tokenList ++ .comma :: itemTokens rest := by
  cases rest with
  | nil => exact absurd rfl h
  | cons next rest => rfl

theorem memberTokens_cons (name : String) (value : Json) {rest : List (String × Json)} (h : rest ≠ []) :
    memberTokens ((name, value) :: rest) =
      .string name :: .colon :: (value.tokenList ++ .comma :: memberTokens rest) := by
  cases rest with
  | nil => exact absurd rfl h
  | cons next rest => rfl

def Integral (json : Json) : Prop := ∀ part : Json, part.Within json → ∀ x, part ≠ .number (.real x)

theorem integral_iff {whole : Json} :
    whole.Integral ↔ (∀ x, whole ≠ .number (.real x)) ∧ ∀ part ∈ whole.parts, part.Integral :=
  forall_within_iff

@[simp] theorem integral_integer (n : Int) (fits : Number.Fits n) : (Json.number (.integer n fits)).Integral :=
  integral_iff.2 ⟨nofun, nofun⟩

@[simp] theorem integral_string (s : String) : (Json.string s).Integral := integral_iff.2 ⟨nofun, nofun⟩

@[simp] theorem integral_array (items : List Json) :
    (Json.array items).Integral ↔ ∀ item ∈ items, item.Integral :=
  integral_iff.trans (and_iff_right nofun)

@[simp] theorem integral_object (members : List (String × Json)) :
    (Json.object members).Integral ↔ ∀ member ∈ members, member.2.Integral := by
  rw [integral_iff, and_iff_right nofun]
  exact List.forall_mem_map

theorem Integral.part {part whole : Json} (h : whole.Integral) (hm : part ∈ whole.parts) : part.Integral :=
  (integral_iff.1 h).2 part hm

end Json

namespace Quoted

theorem hex4_code {ds : List Char} {n : Nat} (h : Code ds n) (cs : List Char) : hex4 (ds ++ cs) = .ok (n, cs) := by
  obtain ⟨ha, hb, hc, hd⟩ := h
  simp [hex4, ha, hb, hc, hd]

theorem escaped_short {e c : Char} (h : (e, c) ∈ shortEscapes) (cs : List Char) :
    escaped (e :: cs) = .ok (c, cs) := by
  simp only [shortEscapes, List.mem_cons, Prod.mk.injEq, List.not_mem_nil, or_false] at h
  rcases h with ⟨rfl, rfl⟩ | ⟨rfl, rfl⟩ | ⟨rfl, rfl⟩ | ⟨rfl, rfl⟩ | ⟨rfl, rfl⟩ | ⟨rfl, rfl⟩ | ⟨rfl, rfl⟩ |
    ⟨rfl, rfl⟩ <;> rfl

theorem unicodeEscape_code {ds : List Char} {n : Nat} (h : Code ds n) (hn : ¬ (0xD800 ≤ n ∧ n ≤ 0xDFFF))
    (cs : List Char) : unicodeEscape (ds ++ cs) = .ok (Char.ofNat n, cs) := by
  have hlow : ¬ (0xDC00 ≤ n ∧ n ≤ 0xDFFF) := by omega
  have hhigh : ¬ (0xD800 ≤ n ∧ n ≤ 0xDBFF) := by omega
  simp only [unicodeEscape, hex4_code h, bind, Except.bind, if_neg hlow, if_neg hhigh]
  rfl

theorem unicodeEscape_pair {ds ds' : List Char} {high low : Nat} (h : Code ds high) (h' : Code ds' low)
    (hhigh : 0xD800 ≤ high ∧ high ≤ 0xDBFF) (hlow : 0xDC00 ≤ low ∧ low ≤ 0xDFFF) (cs : List Char) :
    unicodeEscape (ds ++ '\\' :: 'u' :: (ds' ++ cs)) =
      .ok (Char.ofNat (0x10000 + (high - 0xD800) * 1024 + (low - 0xDC00)), cs) := by
  have hnot : ¬ (0xDC00 ≤ high ∧ high ≤ 0xDFFF) := by omega
  simp only [unicodeEscape, hex4_code h, bind, Except.bind, if_neg hnot, if_pos hhigh, lowSurrogate,
    hex4_code h', if_pos hlow]
  rfl

theorem body_inside {cs s : List Char} (h : Inside cs s) (rest : List Char) :
    body (cs ++ '"' :: rest) = .ok (s, rest) := by
  induction h with
  | nil => exact body_quote rest
  | @plain c cs s hc hquote hslash _ ih =>
    have hunit : unit c (cs ++ '"' :: rest) = .ok (c, cs ++ '"' :: rest) := by
      rw [unit, if_neg hslash, if_neg (Nat.not_lt.2 hc)]
    rw [List.cons_append, body_unit hquote hunit, ih]
    rfl
  | @short e c cs s hm _ ih =>
    have hunit : unit '\\' (e :: (cs ++ '"' :: rest)) = .ok (c, cs ++ '"' :: rest) := escaped_short hm _
    rw [List.cons_append, List.cons_append, body_unit (by decide) hunit, ih]
    rfl
  | @code ds n cs s hds hn _ ih =>
    have hunit : unit '\\' ('u' :: (ds ++ (cs ++ '"' :: rest))) = .ok (Char.ofNat n, cs ++ '"' :: rest) :=
      unicodeEscape_code hds hn _
    rw [List.cons_append, List.cons_append, List.append_assoc, body_unit (by decide) hunit, ih]
    rfl
  | @pair ds ds' high low cs s hds hds' hhigh hlow _ ih =>
    have hunit := unicodeEscape_pair hds hds' hhigh hlow (cs ++ '"' :: rest)
    have hunit : unit '\\' ('u' :: (ds ++ '\\' :: 'u' :: (ds' ++ (cs ++ '"' :: rest)))) = _ := hunit
    rw [List.cons_append, List.cons_append, List.append_assoc, List.cons_append, List.cons_append,
      List.append_assoc, body_unit (by decide) hunit, ih]
    rfl

end Quoted

namespace Token

/-- No character that a numeral goes on with comes next. -/
def Ends (rest : List Char) : Prop := ∀ c ∈ rest.head?, c.isDigit = false ∧ c ≠ '.' ∧ c ≠ 'e' ∧ c ≠ 'E'

theorem takeWhile_digits {cs rest : List Char} (h : ∀ c ∈ cs, c.isDigit = true) (hr : Ends rest) :
    (cs ++ rest).takeWhile Char.isDigit = cs ∧ (cs ++ rest).dropWhile Char.isDigit = rest := by
  have hrest : rest.takeWhile Char.isDigit = [] ∧ rest.dropWhile Char.isDigit = rest := by
    cases rest with
    | nil => exact ⟨rfl, rfl⟩
    | cons c rest =>
      have hc := (hr c rfl).1
      simp [hc]
  rw [List.takeWhile_append_of_pos h, List.dropWhile_append_of_pos h, hrest.1, hrest.2, List.append_nil]
  exact ⟨rfl, rfl⟩

theorem readWhole_digits (n : Nat) {rest : List Char} (hr : Ends rest) :
    readWhole (Decimal.digits n ++ rest) = .ok (Decimal.digits n, rest) := by
  have hdigits : ∀ c ∈ Decimal.digits n, c.isDigit = true := fun _ => Decimal.isDigit_of_mem_digits
  have hsingle : ¬ ((Decimal.digits n).head? = some '0' ∧ 1 < (Decimal.digits n).length) := by
    rintro ⟨hhead, hlength⟩
    by_cases hzero : n = 0
    · subst hzero
      exact absurd hlength (by decide)
    · exact Decimal.head?_digits hzero hhead
  cases hds : Decimal.digits n with
  | nil => exact absurd hds (Decimal.digits_ne_nil n)
  | cons c cs =>
    rw [hds] at hdigits hsingle
    obtain ⟨hc, hcs⟩ := List.forall_mem_cons.1 hdigits
    obtain ⟨htake, hdrop⟩ := takeWhile_digits hcs hr
    rw [List.cons_append, readWhole, readDigits, if_pos hc, htake, hdrop]
    exact if_neg hsingle

theorem readNumeral_digits (negative : Bool) (k : Nat) {rest : List Char} (hr : Ends rest) :
    readNumeral ((if negative then '-' :: Decimal.digits k else Decimal.digits k) ++ rest) =
      .ok (⟨negative, Decimal.digits k, none, none⟩, rest) := by
  have hfraction : readFraction rest = .ok (none, rest) := if_neg fun hdot => (hr _ hdot).2.1 rfl
  have hpower : readPower rest = .ok (none, rest) :=
    if_neg fun he => he.elim (fun he => (hr _ he).2.2.1 rfl) fun he => (hr _ he).2.2.2 rfl
  have hwhole := readWhole_digits k hr
  cases negative with
  | true =>
    simp only [readNumeral, ↓reduceIte, List.cons_append, List.head?_cons, List.tail_cons, bind, Except.bind,
      hwhole, hfraction, hpower, decide_true]
    rfl
  | false =>
    have hsign : ¬ (Decimal.digits k ++ rest).head? = some '-' := by
      cases hds : Decimal.digits k with
      | nil => exact absurd hds (Decimal.digits_ne_nil k)
      | cons c cs =>
        have hc : c.isDigit = true := Decimal.isDigit_of_mem_digits (hds ▸ List.mem_cons_self)
        rintro hminus
        cases Option.some.inj hminus
        exact absurd hc (by decide)
    simp only [Bool.false_eq_true, ↓reduceIte, readNumeral, hsign, bind, Except.bind, hwhole, hfraction, hpower,
      decide_false]
    rfl

theorem readNumber_ofInt {n : Int} (h : Number.Fits n) {rest : List Char} (hr : Ends rest) :
    readNumber (Decimal.ofInt n ++ rest) = (.number (.integer n h), rest) := by
  have hread {cs : List Char} {t : Number.Numeral} (ht : readNumeral cs = .ok (t, rest))
      (hn : Number.ofNumeral? t = some (.integer n h)) : readNumber cs = (.number (.integer n h), rest) := by
    simp only [readNumber, ht, hn]
  cases n with
  | ofNat k =>
    have hvalue : (if false = true then -(k : Int) else k) = Int.ofNat k := if_neg Bool.false_ne_true
    exact hread (readNumeral_digits false k hr) (Number.ofNumeral?_digits h hvalue (absurd · Bool.false_ne_true))
  | negSucc k =>
    have hvalue : (if true = true then -((k + 1 : Nat) : Int) else (k + 1 : Nat)) = Int.negSucc k := by
      rw [if_pos rfl]
      exact Int.neg_ofNat_succ k
    exact hread (readNumeral_digits true (k + 1) hr)
      (Number.ofNumeral?_digits h hvalue fun _ => Nat.succ_ne_zero k)

theorem read_number {c : Char} (h : c = '-' ∨ c.isDigit = true) (cs : List Char) :
    isSpace c = false ∧ read c cs = readNumber (c :: cs) := by
  have hne (d : Char) (hd : ¬ (d = '-' ∨ d.isDigit = true)) : c ≠ d := fun heq => hd (heq ▸ h)
  have hspace : isSpace c = false := by
    simp [isSpace, hne ' ' (by decide), hne '\n' (by decide), hne '\t' (by decide), hne '\r' (by decide)]
  have hpunctuation : punctuation? c = none := by
    unfold punctuation?
    split <;> first | rfl | exact absurd rfl (hne _ (by decide))
  have hword : word? c = none := by
    unfold word?
    split <;> first | rfl | exact absurd rfl (hne _ (by decide))
  have hquote : ¬ c = '"' := hne '"' (by decide)
  refine ⟨hspace, ?_⟩
  simp only [read, hpunctuation, readLong, if_neg hquote, hword, if_pos h]

end Token

namespace Json

open Token (Ends)

variable {cs rest : List Char}

theorem isSpace_eq_true_iff {c : Char} : Token.isSpace c = true ↔ IsBlank c := by
  simp [Token.isSpace, IsBlank, or_assoc]

theorem tokens_blank (h : Blank cs) (rest : List Char) : tokens (cs ++ rest) = tokens rest := by
  induction cs with
  | nil => rfl
  | cons c cs ih =>
    obtain ⟨hc, hcs⟩ := List.forall_mem_cons.1 h
    rw [List.cons_append, tokens, if_pos (isSpace_eq_true_iff.2 hc), ih hcs]

theorem tokens_cons {c : Char} {token : Token} (hc : Token.isSpace c = false)
    (h : Token.read c cs = (token, rest)) : tokens (c :: cs) = token :: tokens rest := by
  rw [tokens, if_neg (by rw [hc]; decide), h]

theorem tokens_quoted {s : String} (h : Spelling.Quoted cs s) (rest : List Char) :
    tokens (cs ++ rest) = .string s :: tokens rest := by
  obtain ⟨hinside⟩ := h
  rename_i cs
  have hread : Token.readString (cs ++ '"' :: rest) = (.string s, rest) := by
    simp only [Token.readString, Quoted.body_inside hinside, String.ofList_toList]
  rw [List.cons_append, List.append_assoc]
  exact tokens_cons rfl hread

theorem tokens_integer {n : Int} (h : Number.Fits n) (hr : Ends rest) :
    tokens (Decimal.ofInt n ++ rest) = .number (.integer n h) :: tokens rest := by
  have hread := Token.readNumber_ofInt h hr
  have hfirst : ∃ c cs, Decimal.ofInt n = c :: cs ∧ (c = '-' ∨ c.isDigit = true) := by
    cases n with
    | ofNat k =>
      obtain ⟨c, cs, hds⟩ := List.exists_cons_of_ne_nil (Decimal.digits_ne_nil k)
      exact ⟨c, cs, hds, .inr (Decimal.isDigit_of_mem_digits (hds ▸ List.mem_cons_self))⟩
    | negSucc k => exact ⟨'-', _, rfl, .inl rfl⟩
  obtain ⟨c, cs, hds, hc⟩ := hfirst
  obtain ⟨hspace, hnumber⟩ := Token.read_number hc (cs ++ rest)
  rw [hds, List.cons_append] at hread ⊢
  exact tokens_cons hspace (hnumber.trans hread)

theorem ends_blank (h : Blank cs) (hr : Ends rest) : Ends (cs ++ rest) := by
  cases cs with
  | nil => exact hr
  | cons c cs =>
    intro d hd
    cases Option.some.inj hd
    rcases h c List.mem_cons_self with rfl | rfl | rfl | rfl <;> decide

theorem ends_cons {c : Char} (h : c.isDigit = false ∧ c ≠ '.' ∧ c ≠ 'e' ∧ c ≠ 'E') : Ends (c :: cs) := by
  intro d hd
  cases Option.some.inj hd
  exact h

theorem tokens_element {json : Json}
    (h : ∀ {cs rest}, Value cs json → Ends rest → tokens (cs ++ rest) = json.tokenList ++ tokens rest)
    (he : Element cs json) (hr : Ends rest) : tokens (cs ++ rest) = json.tokenList ++ tokens rest := by
  obtain ⟨hbefore, hvalue, hafter⟩ := he
  rw [List.append_assoc, List.append_assoc, tokens_blank hbefore, h hvalue (ends_blank hafter hr),
    tokens_blank hafter]

theorem tokens_member {name : String} {value : Json}
    (h : ∀ {cs rest}, Value cs value → Ends rest → tokens (cs ++ rest) = value.tokenList ++ tokens rest)
    (hm : Member cs (name, value)) (hr : Ends rest) :
    tokens (cs ++ rest) = .string name :: .colon :: (value.tokenList ++ tokens rest) := by
  obtain ⟨hbefore, hquoted, hafter, helement⟩ := hm
  rename_i before quoted after value'
  have hcolon : tokens (':' :: (value' ++ rest)) = .colon :: tokens (value' ++ rest) := tokens_cons rfl rfl
  rw [List.append_assoc, List.append_assoc, List.append_assoc, List.cons_append, tokens_blank hbefore,
    tokens_quoted hquoted, tokens_blank hafter, hcolon, tokens_element h helement hr]

mutual
theorem tokens_value : (json : Json) → json.Integral → {cs rest : List Char} → Value cs json → Ends rest →
    tokens (cs ++ rest) = json.tokenList ++ tokens rest
  | .null, _, _, rest, h, _ => by
    cases h
    exact tokens_cons rfl rfl
  | .bool b, _, _, rest, h, _ => by
    cases h <;> exact tokens_cons rfl rfl
  | .number (.integer n fits), _, _, rest, h, hr => by
    cases h
    exact tokens_integer fits hr
  | .number (.real x), hi, _, _, _, _ => absurd rfl (hi _ (.self _) x)
  | .string s, _, _, rest, h, _ => by
    cases h with
    | string hquoted => exact tokens_quoted hquoted rest
  | .array items, hi, _, rest, h, _ => by
    have hclose : tokens (']' :: rest) = .closeArray :: tokens rest := tokens_cons rfl rfl
    cases h with
    | @emptyArray blank hblank =>
      have hopen : tokens ('[' :: (blank ++ ']' :: rest)) = .openArray :: tokens (blank ++ ']' :: rest) :=
        tokens_cons rfl rfl
      rw [List.cons_append, List.append_assoc, List.singleton_append, hopen, tokens_blank hblank, hclose]
      rfl
    | @array cs _ helements =>
      have hopen : tokens ('[' :: (cs ++ ']' :: rest)) = .openArray :: tokens (cs ++ ']' :: rest) :=
        tokens_cons rfl rfl
      have hitems := tokens_elements items (fun item hm => hi.part hm) helements
        (@ends_cons rest ']' (by decide))
      rw [List.cons_append, List.append_assoc, List.singleton_append, hopen, hitems, hclose]
      simp [tokenList]
  | .object members, hi, _, rest, h, _ => by
    have hclose : tokens ('\x7d' :: rest) = .closeObject :: tokens rest := tokens_cons rfl rfl
    cases h with
    | @emptyObject blank hblank =>
      have hopen : tokens ('\x7b' :: (blank ++ '\x7d' :: rest)) =
          .openObject :: tokens (blank ++ '\x7d' :: rest) := tokens_cons rfl rfl
      rw [List.cons_append, List.append_assoc, List.singleton_append, hopen, tokens_blank hblank, hclose]
      rfl
    | @object cs _ hmembers =>
      have hopen : tokens ('\x7b' :: (cs ++ '\x7d' :: rest)) = .openObject :: tokens (cs ++ '\x7d' :: rest) :=
        tokens_cons rfl rfl
      have hitems := tokens_members members (fun member hm => hi.part (List.mem_map_of_mem hm)) hmembers
        (@ends_cons rest '\x7d' (by decide))
      rw [List.cons_append, List.append_assoc, List.singleton_append, hopen, hitems, hclose]
      simp [tokenList]
theorem tokens_elements : (items : List Json) → (∀ item ∈ items, item.Integral) → {cs rest : List Char} →
    Elements cs items → Ends rest → tokens (cs ++ rest) = itemTokens items ++ tokens rest
  | [], _, _, _, h, _ => nomatch h
  | item :: rest, hi, _, after, h, hr => by
    obtain ⟨hitem, hrest⟩ := List.forall_mem_cons.1 hi
    have hvalue {cs after : List Char} : Value cs item → Ends after →
        tokens (cs ++ after) = item.tokenList ++ tokens after := tokens_value item hitem
    cases h with
    | one helement => exact tokens_element hvalue helement hr
    | @more cs others _ _ helement helements =>
      have hcomma : tokens (',' :: (others ++ after)) = .comma :: tokens (others ++ after) := tokens_cons rfl rfl
      have hothers := tokens_elements rest hrest helements hr
      rw [List.append_assoc, List.cons_append, tokens_element hvalue helement (ends_cons (by decide)), hcomma,
        hothers]
      have hne : rest ≠ [] := by
        rintro rfl
        cases helements
      rw [itemTokens_cons item hne, List.append_assoc, List.cons_append]
theorem tokens_members : (members : List (String × Json)) → (∀ member ∈ members, member.2.Integral) →
    {cs rest : List Char} → Members cs members → Ends rest →
    tokens (cs ++ rest) = memberTokens members ++ tokens rest
  | [], _, _, _, h, _ => nomatch h
  | (name, value) :: rest, hi, _, after, h, hr => by
    obtain ⟨hitem, hrest⟩ := List.forall_mem_cons.1 hi
    have hvalue {cs after : List Char} : Value cs value → Ends after →
        tokens (cs ++ after) = value.tokenList ++ tokens after := tokens_value value hitem
    cases h with
    | one hmember => exact tokens_member hvalue hmember hr
    | @more cs others _ _ hmember hmembers =>
      have hcomma : tokens (',' :: (others ++ after)) = .comma :: tokens (others ++ after) := tokens_cons rfl rfl
      have hothers := tokens_members rest hrest hmembers hr
      rw [List.append_assoc, List.cons_append, tokens_member hvalue hmember (ends_cons (by decide)), hcomma,
        hothers]
      have hne : rest ≠ [] := by
        rintro rfl
        cases hmembers
      rw [memberTokens_cons name value hne]
      simp
end

theorem tokens_of_spells {text : String} {json : Json} (h : Spells text json) (hi : json.Integral) :
    tokens text.toList = json.tokenList := by
  have hend : Ends [] := nofun
  have htokens := tokens_element (tokens_value json hi) h hend
  rwa [List.append_nil, tokens, List.append_nil] at htokens

end Json

end StorageQuery
