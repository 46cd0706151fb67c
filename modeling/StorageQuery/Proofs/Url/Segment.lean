import Mathlib.Data.List.Basic
import StorageQuery.Url.Basic
import StorageQuery.Proofs.Url.Percent
/-!
Texts as segments of a path. A text from which no character is dropped and which is not read as dots makes
one segment, and its characters come back from it. Any other text makes none, or one that stands for
something else.
-/

set_option autoImplicit false

namespace StorageQuery.Url

/-- No character of the text is dropped, and it is not one or two dots. -/
def Whole (text : List Char) : Prop :=
  (∀ c ∈ text, isDropped c = false) ∧ text ≠ ['.'] ∧ text ≠ ['.', '.']

instance (text : List Char) : Decidable (Whole text) :=
  @instDecidableAnd _ _ (List.decidableBAll (fun c => isDropped c = false) text) inferInstance

def segmentSet (special : Bool) : Char → Bool :=
  if special then Percent.specialSegment else Percent.segment

def IsSegment (segment : List Char) : Prop := ∀ c ∈ segment, c ≠ '/' ∧ c ≠ '?' ∧ c ≠ '#'

variable {special : Bool}

theorem segmentSet_percent : segmentSet special '%' = true := by cases special <;> decide

theorem not_mem_encode {d : Char} (hset : segmentSet special d = true) (hpercent : d ≠ '%')
    (hdigit : ∀ n < 16, d ≠ Hex.upperDigit n) (text : List Char) :
    d ∉ Percent.encode (segmentSet special) text := by
  intro hmem
  rcases Percent.of_mem_encode hmem with h | h | ⟨n, hn, h⟩
  · simp [hset] at h
  · exact hpercent h
  · exact hdigit n hn h

theorem isSegment_encode (text : List Char) : IsSegment (Percent.encode (segmentSet special) text) := by
  intro c hc
  refine ⟨?_, ?_, ?_⟩ <;> rintro rfl
  · exact not_mem_encode (by cases special <;> decide) (by decide) (by decide) text hc
  · exact not_mem_encode (by cases special <;> decide) (by decide) (by decide) text hc
  · exact not_mem_encode (by cases special <;> decide) (by decide) (by decide) text hc

theorem eq_of_toLower {c d : Char} (h : c.toLower = d) :
    c = d ∨ (97 ≤ d.toNat ∧ d.toNat ≤ 122 ∧ c.toNat + 32 = d.toNat) := by
  subst h
  delta Char.toLower
  split
  · rename_i hupper
    refine .inr ?_
    simp only [ge_iff_le, UInt32.le_iff_toNat_le] at hupper
    simp only [Char.toNat, UInt32.toNat_add, UInt32.toNat_sub]
    have hA : 'A'.val.toNat = 65 := rfl
    have hZ : 'Z'.val.toNat = 90 := rfl
    have ha : 'a'.val.toNat = 97 := rfl
    omega
  · exact .inl rfl

theorem eq_of_toLower_of_not_small {c d : Char} (hd : d.toNat < 97) (h : c.toLower = d) : c = d := by
  rcases eq_of_toLower h with heq | hsmall
  · exact heq
  · omega

theorem eq_of_toLower_e {c : Char} (h : c.toLower = 'e') : c = 'e' ∨ c = 'E' := by
  rcases eq_of_toLower h with heq | ⟨-, -, hn⟩
  · exact .inl heq
  · have he : 'e'.toNat = 101 := rfl
    have hE : c.toNat = 'E'.toNat := by
      have : 'E'.toNat = 69 := rfl
      omega
    exact .inr (Char.toNat_inj.1 hE)

def IsDot (text : List Char) : Prop :=
  text.map Char.toLower = ['.'] ∨ text.map Char.toLower = ['%', '2', 'e']

theorem decode_of_isDot {dot : List Char} (h : IsDot dot) (rest : List Char) :
    Percent.decode (dot ++ rest) = Text.utf8 ['.'] ++ Percent.decode rest := by
  rcases h with h | h
  · obtain ⟨c, rfl, hc⟩ := List.map_eq_singleton_iff.1 h
    rw [eq_of_toLower_of_not_small (by decide) hc]
    exact Percent.decode_cons (by decide) rest
  · obtain ⟨c₁, _, rfl, h₁, h⟩ := List.map_eq_cons_iff.1 h
    obtain ⟨c₂, _, rfl, h₂, h⟩ := List.map_eq_cons_iff.1 h
    obtain ⟨c₃, rfl, h₃⟩ := List.map_eq_singleton_iff.1 h
    rw [eq_of_toLower_of_not_small (by decide) h₁, eq_of_toLower_of_not_small (by decide) h₂]
    rcases eq_of_toLower_e h₃ with rfl | rfl <;> rfl

theorem isDot_of_isHere {segment : List Char} (h : isHere segment = true) : IsDot segment := by
  have hmem := List.contains_iff_mem.1 h
  simp only [List.mem_cons, List.not_mem_nil, or_false] at hmem
  exact hmem.imp (fun heq => String.ofList_injective heq) (fun heq => String.ofList_injective heq)

theorem isDot_of_isAbove {segment : List Char} (h : isAbove segment = true) :
    ∃ first second, segment = first ++ second ∧ IsDot first ∧ IsDot second := by
  have hmem := List.contains_iff_mem.1 h
  simp only [List.mem_cons, List.not_mem_nil, or_false] at hmem
  have split : ∀ first second : List Char, segment.map Char.toLower = first ++ second →
      (first = ['.'] ∨ first = ['%', '2', 'e']) → (second = ['.'] ∨ second = ['%', '2', 'e']) →
      ∃ first second, segment = first ++ second ∧ IsDot first ∧ IsDot second := by
    intro first second heq hfirst hsecond
    obtain ⟨as, bs, rfl, rfl, rfl⟩ := List.map_eq_append_iff.1 heq
    exact ⟨as, bs, rfl, hfirst, hsecond⟩
  rcases hmem with h | h | h | h
  · exact split ['.'] ['.'] (String.ofList_injective h) (.inl rfl) (.inl rfl)
  · exact split ['.'] ['%', '2', 'e'] (String.ofList_injective h) (.inl rfl) (.inr rfl)
  · exact split ['%', '2', 'e'] ['.'] (String.ofList_injective h) (.inr rfl) (.inl rfl)
  · exact split ['%', '2', 'e'] ['%', '2', 'e'] (String.ofList_injective h) (.inr rfl) (.inr rfl)

theorem decode_of_isHere {segment : List Char} (h : isHere segment = true) :
    Percent.decode segment = Text.utf8 ['.'] := by
  simpa [Percent.decode] using decode_of_isDot (isDot_of_isHere h) []

theorem decode_of_isAbove {segment : List Char} (h : isAbove segment = true) :
    Percent.decode segment = Text.utf8 ['.', '.'] := by
  obtain ⟨first, second, rfl, hfirst, hsecond⟩ := isDot_of_isAbove h
  rw [decode_of_isDot hfirst, ← List.append_nil second, decode_of_isDot hsecond]
  rfl

theorem isHere_encode {text : List Char} (h : text ≠ ['.']) :
    isHere (Percent.encode (segmentSet special) text) = false := by
  cases hhere : isHere (Percent.encode (segmentSet special) text) with
  | false => rfl
  | true =>
    have hdecode := decode_of_isHere hhere
    rw [Percent.decode_encode segmentSet_percent] at hdecode
    exact absurd (Text.utf8_injective hdecode) h

theorem isAbove_encode {text : List Char} (h : text ≠ ['.', '.']) :
    isAbove (Percent.encode (segmentSet special) text) = false := by
  cases habove : isAbove (Percent.encode (segmentSet special) text) with
  | false => rfl
  | true =>
    have hdecode := decode_of_isAbove habove
    rw [Percent.decode_encode segmentSet_percent] at hdecode
    exact absurd (Text.utf8_injective hdecode) h

theorem push_of_whole {text : List Char} (h : Whole text) (segments : List (List Char)) :
    push special segments text =
      (if segments = [[]] then [] else segments) ++ [Percent.encode (segmentSet special) text] := by
  obtain ⟨hkept, hhere, habove⟩ := h
  have hfilter : text.filter (fun c => !isDropped c) = text :=
    List.filter_eq_self.2 fun c hc => by simp [hkept c hc]
  have hset : (if special then Percent.specialSegment else Percent.segment) = segmentSet special := rfl
  rw [push, if_neg (by simp [hhere, habove])]
  simp only [hfilter, hset, addSegment, isHere_encode hhere, isAbove_encode habove, Bool.false_eq_true,
    ↓reduceIte]

theorem push_behind {text : List Char} (h : Whole text) {segments : List (List Char)}
    (hroot : segments ≠ [[]]) :
    push special segments text = segments ++ [Percent.encode (segmentSet special) text] := by
  rw [push_of_whole h, if_neg hroot]

theorem ne_root_of_length {segments : List (List Char)} (h : 1 < segments.length) : segments ≠ [[]] := by
  rintro rfl
  exact absurd h (Nat.lt_irrefl 1)

theorem push_of_not_whole {text : List Char} (h : ¬ Whole text) {segments : List (List Char)}
    (hne : segments ≠ []) (hroot : segments ≠ [[]]) :
    (push special segments text).length = segments.length ∨
      ∃ segment, push special segments text = segments ++ [segment] ∧ IsSegment segment ∧
        Percent.decode segment ≠ Text.utf8 text := by
  rw [push, if_neg hroot]
  split
  · exact .inl rfl
  · rename_i hdots
    obtain ⟨hhere, habove⟩ := not_or.1 hdots
    have hempty : Percent.decode [] ≠ Text.utf8 text := by
      intro heq
      have hnil : [] = text := Text.utf8_injective heq
      exact h (hnil ▸ by decide)
    have hdropped : text.filter (fun c => !isDropped c) ≠ text := by
      intro heq
      refine h ⟨fun c hc => ?_, hhere, habove⟩
      simpa using List.filter_eq_self.1 heq c hc
    let segment := Percent.encode (segmentSet special) (text.filter fun c => !isDropped c)
    change (addSegment segments segment true).length = _ ∨
      ∃ found, addSegment segments segment true = _ ∧ _
    rw [addSegment]
    cases isAbove segment with
    | true =>
      cases segments.getLast?.any isDrive with
      | true => exact .inr ⟨[], rfl, List.forall_mem_nil _, hempty⟩
      | false =>
        have hlength := List.length_pos_iff.2 hne
        refine .inl ?_
        simp only [↓reduceIte, Bool.false_eq_true, List.length_append, List.length_dropLast,
          List.length_singleton]
        omega
    | false =>
      cases isHere segment with
      | true => exact .inr ⟨[], rfl, List.forall_mem_nil _, hempty⟩
      | false =>
        refine .inr ⟨segment, rfl, isSegment_encode _, fun heq => hdropped ?_⟩
        exact Text.utf8_injective ((Percent.decode_encode segmentSet_percent _).symm.trans heq)

/-- Behind two segments or more, a text adds one segment at most, and it is whole if it adds one that
stands for it. -/
theorem push_cases (special : Bool) (text : List Char) {segments : List (List Char)} (h : 1 < segments.length) :
    (¬ Whole text ∧ (push special segments text).length = segments.length) ∨
      ∃ segment, push special segments text = segments ++ [segment] ∧ IsSegment segment ∧
        (Percent.decode segment = Text.utf8 text ↔ Whole text) := by
  have hne : segments ≠ [] := by rintro rfl; simp at h
  have hroot := ne_root_of_length h
  by_cases hwhole : Whole text
  · have hdecode := Percent.decode_encode (@segmentSet_percent special) text
    exact .inr ⟨_, push_behind hwhole hroot, isSegment_encode text, iff_of_true hdecode hwhole⟩
  · rcases push_of_not_whole hwhole hne hroot with hlength | ⟨segment, hpush, hsegment, hdecode⟩
    · exact .inl ⟨hwhole, hlength⟩
    · exact .inr ⟨segment, hpush, hsegment, iff_of_false hdecode hwhole⟩

theorem length_push (special : Bool) (text : List Char) {segments : List (List Char)} (h : 1 < segments.length) :
    segments.length ≤ (push special segments text).length ∧
      (push special segments text).length ≤ segments.length + 1 := by
  rcases push_cases special text h with ⟨-, hlength⟩ | ⟨segment, hpush, -⟩
  · omega
  · rw [hpush, List.length_append, List.length_singleton]
    omega

def stem (segments : List (List Char)) : List (List Char) :=
  if segments.getLast? = some [] then segments.dropLast else segments

/-- What is left of a path when segments are put behind it: its stem, but nothing of two empty segments. -/
def trunk (segments : List (List Char)) : List (List Char) :=
  if segments = [[], []] then [] else stem segments

theorem length_trunk_le (segments : List (List Char)) :
    (trunk segments).length ≤ (stem segments).length := by
  rw [trunk]
  split <;> simp

theorem trunk_eq_stem_iff {segments : List (List Char)} :
    trunk segments = stem segments ↔ segments ≠ [[], []] := by
  constructor
  · rintro h rfl
    exact absurd h (by decide)
  · exact fun h => if_neg h

theorem push_popIfEmpty {text : List Char} (h : Whole text) (segments : List (List Char)) :
    push special (popIfEmpty segments) text =
      trunk segments ++ [Percent.encode (segmentSet special) text] := by
  rw [push_of_whole h]
  congr 1
  match segments with
  | [] => rfl
  | [segment] => cases segment <;> simp [popIfEmpty, trunk, stem]
  | [first, second] => cases second <;> cases first <;> simp [popIfEmpty, trunk, stem]
  | first :: second :: third :: rest =>
    have hpop : popIfEmpty (first :: second :: third :: rest) = stem (first :: second :: third :: rest) := by
      simp [popIfEmpty, stem]
    have hlong : stem (first :: second :: third :: rest) ≠ [[]] := by
      intro heq
      have hlength := congrArg List.length heq
      rw [stem] at hlength
      split at hlength <;> simp at hlength
    rw [hpop, if_neg hlong, trunk, if_neg (by simp)]

end StorageQuery.Url
