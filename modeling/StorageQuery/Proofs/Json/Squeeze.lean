import StorageQuery.Json.Token
import StorageQuery.Proofs.Json.Writing
set_option autoImplicit false

namespace StorageQuery.Json

open Spelling

/-- Where a character stands: outside of strings, in one, or behind a backslash in one. -/
inductive Mode where
  | outside
  | inside
  | escaped
  deriving DecidableEq, Repr

def Mode.after (c : Char) : Mode → Mode
  | outside => if c = '"' then inside else outside
  | inside => if c = '\\' then escaped else if c = '"' then outside else inside
  | escaped => inside

def squeeze (mode : Mode) : List Char → List Char
  | [] => []
  | c :: cs =>
    if mode = .outside ∧ Token.isSpace c then squeeze mode cs else c :: squeeze (mode.after c) cs

def Mode.behind (mode : Mode) (cs : List Char) : Mode := cs.foldl (fun mode c => mode.after c) mode

theorem Mode.after_blank {c : Char} (h : Token.isSpace c = true) : Mode.outside.after c = .outside := by
  refine if_neg ?_
  rintro rfl
  exact absurd h (by decide)

theorem squeeze_append (mode : Mode) (cs rest : List Char) :
    squeeze mode (cs ++ rest) = squeeze mode cs ++ squeeze (mode.behind cs) rest := by
  induction cs generalizing mode with
  | nil => rfl
  | cons c cs ih =>
    rw [List.cons_append, squeeze, squeeze, Mode.behind, List.foldl_cons]
    split
    · rename_i hblank
      obtain ⟨rfl, hspace⟩ := hblank
      rw [Mode.after_blank hspace]
      exact ih .outside
    · exact congrArg (c :: ·) (ih (mode.after c))

theorem squeeze_squeeze (mode : Mode) (cs : List Char) : squeeze mode (squeeze mode cs) = squeeze mode cs := by
  induction cs generalizing mode with
  | nil => rfl
  | cons c cs ih =>
    rw [squeeze]
    split
    · exact ih mode
    · rename_i hkept
      rw [squeeze, if_neg hkept, ih]

/-- The text, squeezed, is the other one, and what is behind it stands where it stood. -/
structure Tight (mode : Mode) (cs tight : List Char) : Prop where
  squeeze : squeeze mode cs = tight
  behind : mode.behind cs = mode

section
variable {mode : Mode}

theorem Tight.append {left left' right right' : List Char} (hl : Tight mode left left')
    (hr : Tight mode right right') : Tight mode (left ++ right) (left' ++ right') := by
  constructor
  · rw [squeeze_append, hl.behind, hl.squeeze, hr.squeeze]
  · have hleft := hl.behind
    have hright := hr.behind
    rw [Mode.behind] at hleft hright ⊢
    rw [List.foldl_append, hleft, hright]

theorem tight_nil : Tight mode [] [] := ⟨rfl, rfl⟩

theorem tight_cons {c : Char} (hafter : mode.after c = mode) (hkept : mode = .outside → Token.isSpace c = false)
    {cs tight : List Char} (h : Tight mode cs tight) : Tight mode (c :: cs) (c :: tight) := by
  constructor
  · rw [Json.squeeze, if_neg fun hblank => by simp [hkept hblank.1] at hblank, hafter, h.squeeze]
  · rw [Mode.behind, List.foldl_cons, hafter]
    exact h.behind

end

theorem tight_bare {c : Char} (hc : c ≠ '"' ∧ Token.isSpace c = false) {cs tight : List Char}
    (h : Tight .outside cs tight) : Tight .outside (c :: cs) (c :: tight) := by
  have hafter : Mode.outside.after c = .outside := if_neg hc.1
  exact tight_cons hafter (fun _ => hc.2) h

theorem tight_blank {blank : List Char} (h : Blank blank) : Tight .outside blank [] := by
  induction blank with
  | nil => exact tight_nil
  | cons c blank ih =>
    obtain ⟨hc, hrest⟩ := List.forall_mem_cons.1 h
    have hspace : Token.isSpace c = true := by
      rcases hc with rfl | rfl | rfl | rfl <;> decide
    have htight := ih hrest
    constructor
    · rw [Json.squeeze, if_pos ⟨rfl, hspace⟩]
      exact htight.squeeze
    · rw [Mode.behind, List.foldl_cons, Mode.after_blank hspace]
      exact htight.behind

theorem isDigit_bare {c : Char} (h : c.isDigit = true) : c ≠ '"' ∧ Token.isSpace c = false := by
  constructor
  · rintro rfl
    exact absurd h (by decide)
  · rw [Bool.eq_false_iff]
    intro hspace
    simp only [Token.isSpace, Bool.or_eq_true, beq_iff_eq] at hspace
    rcases hspace with ((rfl | rfl) | rfl) | rfl <;> exact absurd h (by decide)

theorem tight_digits {cs : List Char} (h : ∀ c ∈ cs, c.isDigit = true) : Tight .outside cs cs := by
  induction cs with
  | nil => exact tight_nil
  | cons c cs ih =>
    obtain ⟨hc, hrest⟩ := List.forall_mem_cons.1 h
    exact tight_bare (isDigit_bare hc) (ih hrest)

theorem tight_numeral {cs : List Char} (h : Numeral cs) : Tight .outside cs cs := by
  obtain ⟨hsign, hwhole, hfraction, hpower⟩ := h
  have hsigns {sign : List Char} (h : sign = [] ∨ sign = ['+'] ∨ sign = ['-']) : Tight .outside sign sign := by
    rcases h with rfl | rfl | rfl <;> exact ⟨rfl, rfl⟩
  refine (hsigns (hsign.imp_right .inr)).append (.append ?_ (.append ?_ ?_))
  · cases hwhole with
    | zero => exact ⟨rfl, rfl⟩
    | digits hc _ hcs => exact tight_digits (List.forall_mem_cons.2 ⟨hc, hcs⟩)
  · cases hfraction with
    | none => exact tight_nil
    | some hcs => exact tight_bare (by decide) (tight_digits hcs.2)
  · cases hpower with
    | none => exact tight_nil
    | some he hsign hcs =>
      have hrest := (hsigns hsign).append (tight_digits hcs.2)
      rcases he with rfl | rfl <;> exact tight_bare (by decide) hrest

theorem tight_plain {c : Char} (hquote : c ≠ '"') (hslash : c ≠ '\\') : Tight .inside [c] [c] := by
  have hafter : Mode.inside.after c = .inside := by rw [Mode.after, if_neg hslash, if_neg hquote]
  exact tight_cons hafter (fun h => nomatch h) tight_nil

theorem tight_escape (c : Char) : Tight .inside ['\\', c] ['\\', c] := ⟨rfl, rfl⟩

theorem tight_code {ds : List Char} {n : Nat} (h : Code ds n) : Tight .inside ds ds := by
  have hhex {c : Char} {n : Nat} (hc : Hex.value? c = some n) : Tight .inside [c] [c] := by
    refine tight_plain ?_ ?_ <;>
    · rintro rfl
      exact absurd hc (by decide +revert)
  obtain ⟨ha, hb, hc, hd⟩ := h
  exact (hhex ha).append ((hhex hb).append ((hhex hc).append (hhex hd)))

theorem tight_inside {cs s : List Char} (h : Inside cs s) : Tight .inside cs cs := by
  induction h with
  | nil => exact tight_nil
  | plain _ hquote hslash _ ih => exact (tight_plain hquote hslash).append ih
  | short _ _ ih => exact (tight_escape _).append ih
  | code hds _ _ ih => exact (tight_escape 'u').append ((tight_code hds).append ih)
  | pair hds hds' _ _ _ ih =>
    exact (tight_escape 'u').append ((tight_code hds).append
      ((tight_escape 'u').append ((tight_code hds').append ih)))

theorem tight_quoted {cs : List Char} {s : String} (h : Spelling.Quoted cs s) : Tight .outside cs cs := by
  obtain ⟨h⟩ := h
  have hinside := tight_inside h
  constructor
  · rw [Json.squeeze, if_neg (by decide), Mode.after, if_pos rfl, squeeze_append, hinside.squeeze,
      hinside.behind]
    rfl
  · rw [Mode.behind, List.foldl_cons, Mode.after, if_pos rfl, List.foldl_append]
    have hbehind := hinside.behind
    rw [Mode.behind] at hbehind
    rw [hbehind]
    rfl

theorem tight_comma {cs tight : List Char} (h : Tight .outside cs tight) :
    Tight .outside (',' :: cs) (',' :: tight) :=
  tight_bare (by decide) h

theorem tight_member {cs tight : List Char} (h : Tight .outside cs tight) (depth : Nat) (name : String) :
    Tight .outside (newLine depth ++ quoted name ++ ':' :: ' ' :: cs) (quoted name ++ ':' :: tight) := by
  rw [List.append_assoc]
  refine (tight_blank (blank_newLine depth)).append ((tight_quoted (quoted_spelling name)).append ?_)
  exact tight_bare (by decide) ((tight_blank blank_space).append h)

mutual
theorem tight_pretty : (json : Json) → (depth : Nat) → Tight .outside (json.pretty depth) json.compact
  | .null, _ | .bool true, _ | .bool false, _ | .array [], _ | .object [], _ => ⟨rfl, rfl⟩
  | .number n, _ => tight_numeral n.numeral_chars
  | .string s, _ => tight_quoted (quoted_spelling s)
  | .array (item :: rest), depth => by
    have hitems := (tight_prettyItems (item :: rest) (depth + 1)).append (tight_blank (blank_newLine depth))
    rw [List.append_nil] at hitems
    exact tight_bare (by decide) (hitems.append (tight_bare (by decide) tight_nil))
  | .object (member :: rest), depth => by
    have hmembers := (tight_prettyMembers (member :: rest) (depth + 1)).append
      (tight_blank (blank_newLine depth))
    rw [List.append_nil] at hmembers
    exact tight_bare (by decide) (hmembers.append (tight_bare (by decide) tight_nil))
theorem tight_prettyItems : (items : List Json) → (depth : Nat) →
    Tight .outside (prettyItems depth items) (compactItems items)
  | [], _ => tight_nil
  | [item], depth => (tight_blank (blank_newLine depth)).append (tight_pretty item depth)
  | item :: next :: rest, depth => by
    have hfirst := (tight_blank (blank_newLine depth)).append (tight_pretty item depth)
    exact hfirst.append (tight_comma (tight_prettyItems (next :: rest) depth))
theorem tight_prettyMembers : (members : List (String × Json)) → (depth : Nat) →
    Tight .outside (prettyMembers depth members) (compactMembers members)
  | [], _ => tight_nil
  | [(name, value)], depth => tight_member (tight_pretty value depth) depth name
  | (name, value) :: next :: rest, depth => by
    have hfirst := tight_member (tight_pretty value depth) depth name
    have hmembers := hfirst.append (tight_comma (tight_prettyMembers (next :: rest) depth))
    rw [compactMembers]
    · exact hmembers
    · nofun
end

/-- The two texts of a document differ in blanks outside of strings alone, and the compact one has none. -/
theorem squeeze_texts (json : Json) :
    squeeze .outside json.prettyText.toList = json.text.toList ∧
      squeeze .outside json.text.toList = json.text.toList := by
  have hpretty := (tight_pretty json 0).squeeze
  simp only [text, prettyText, String.toList_ofList]
  refine ⟨hpretty, ?_⟩
  rw [← hpretty, squeeze_squeeze]

end StorageQuery.Json
