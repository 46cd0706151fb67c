import StorageQuery.Proofs.Answer.Abort
import StorageQuery.Proofs.Selector.Blank
import StorageQuery.Proofs.Selector.Reading
/-!
Blank selectors have no part in an answer, wherever they stand. They only count among their siblings when it
is asked whether these are a crowd.
-/

set_option autoImplicit false

namespace StorageQuery

section
variable (contents : Contents) (policy : WidePolicy)

mutual
theorem Reading.level_dropBlanks (root : Storage) : (selectors : List Selector) →
    level contents policy root (Selector.dropBlanks selectors) = level contents policy root selectors
  | [] => rfl
  | selector :: rest => by
    have hrest := Reading.level_dropBlanks root rest
    rw [Selector.dropBlanks]
    cases hb : selector.isBlank with
    | true => rw [if_pos rfl, level_cons_of_blank hb, hrest]
    | false =>
      have hb' : selector.withoutBlanks.isBlank = false := by rw [Selector.isBlank_withoutBlanks, hb]
      rw [if_neg Bool.false_ne_true, level_cons hb, level_cons hb', hrest,
        Reading.field_withoutBlanks root selector, Selector.name_withoutBlanks]
theorem Reading.field_withoutBlanks (root : Storage) : (selector : Selector) →
    field contents policy root selector.withoutBlanks = field contents policy root selector
  | .path _ => rfl
  | .keys name requests => by
    simp only [Selector.withoutBlanks, field]
    split
    · rfl
    · rfl
    · rw [Reading.rows_withoutBlanks _ requests]
theorem Reading.rows_withoutBlanks (container : Storage) : (requests : List Request) →
    rows contents policy container (Request.withoutBlanks requests) =
      rows contents policy container requests
  | [] => rfl
  | request :: rest => by
    rw [Request.withoutBlanks, rows_cons, rows_cons, Reading.row_withoutBlank container request,
      Reading.rows_withoutBlanks container rest, Request.key_withoutBlank]
theorem Reading.row_withoutBlank (container : Storage) : (request : Request) →
    row contents policy container request.withoutBlank = row contents policy container request
  | .whole _ => rfl
  | .within key selectors => by
    rw [Request.withoutBlank, row_within, row_within]
    cases container.find contents key with
    | error e => rfl
    | ok found =>
      cases found with
      | none => rfl
      | some found => simp only [Reading.level_dropBlanks found selectors]
end

end

namespace Evaluation

variable (policy : WidePolicy)

theorem isCrowd_dropBlanks {selectors : List Selector} (h : selectors.length ≤ 30) :
    isCrowd (Selector.dropBlanks selectors).length = isCrowd selectors.length := by
  rw [isCrowd_of_le h, isCrowd_of_le ((Selector.length_dropBlanks_le selectors).trans h)]

mutual
theorem fields_dropBlanks (root : Storage) : (selectors : List Selector) →
    Selector.AllNarrow selectors →
    fields policy root (Selector.dropBlanks selectors) = fields policy root selectors
  | [], _ => rfl
  | selector :: rest, h => by
    have hrest := fields_dropBlanks root rest h.2
    rw [Selector.dropBlanks]
    cases hb : selector.isBlank with
    | true => rw [if_pos rfl, hrest, fields, if_pos hb]
    | false =>
      rw [if_neg Bool.false_ne_true, fields, fields, Selector.isBlank_withoutBlanks, hb, hrest,
        field_withoutBlanks root selector h.1, Selector.name_withoutBlanks]
theorem field_withoutBlanks (root : Storage) : (selector : Selector) → selector.Narrow →
    field policy root selector.withoutBlanks = field policy root selector
  | .path _, _ => rfl
  | .keys name requests, h => by
    simp only [Selector.withoutBlanks, field]
    split
    · rfl
    · rfl
    · rw [rows_withoutBlanks _ requests h.2, Request.length_withoutBlanks]
theorem rows_withoutBlanks (container : Storage) : (requests : List Request) →
    Request.AllNarrow requests →
    rows policy container (Request.withoutBlanks requests) = rows policy container requests
  | [], _ => rfl
  | request :: rest, h => by
    rw [Request.withoutBlanks, rows, rows, row_withoutBlank container request h.1,
      rows_withoutBlanks container rest h.2, Request.key_withoutBlank]
theorem row_withoutBlank (container : Storage) : (request : Request) → request.Narrow →
    row policy container request.withoutBlank = row policy container request
  | .whole _, _ => rfl
  | .within key selectors, h => by
    simp only [Request.withoutBlank, row]
    refine congrArg _ (funext fun found => ?_)
    cases found with
    | none => rfl
    | some found => simp only [fields_dropBlanks found selectors h.2, isCrowd_dropBlanks h.1]
end

theorem level_dropBlanks (root : Storage) {selectors : List Selector} (hlength : selectors.length ≤ 30)
    (h : Selector.AllNarrow selectors) :
    level policy root (Selector.dropBlanks selectors) = level policy root selectors := by
  rw [level, level, fields_dropBlanks policy root selectors h, isCrowd_dropBlanks hlength]

end Evaluation

namespace Selector

/-- Whatever the storage and the times that look-ups take, both have the same answer or none. -/
def SameAnswers (selectors others : List Selector) : Prop :=
  ∀ (contents : Contents) (policy : WidePolicy) (root : Storage) (delays delays' : Delays)
    (answer : Answer),
    (root.select contents delays policy selectors).outcome = .ok answer ↔
      (root.select contents delays' policy others).outcome = .ok answer

/-- Whatever the storage and the times that look-ups take, the same happens, up to the same outcome. -/
def SameRuns (selectors others : List Selector) : Prop :=
  ∀ (contents : Contents) (policy : WidePolicy) (root : Storage) (delays : Delays),
    root.select contents delays policy selectors = root.select contents delays policy others

theorem sameAnswers_dropBlanks (selectors : List Selector) :
    SameAnswers (dropBlanks selectors) selectors := by
  intro contents policy root delays delays' answer
  rw [Storage.outcome_select_eq_ok_iff, Storage.outcome_select_eq_ok_iff, Reading.level_dropBlanks]

theorem sameRuns_dropBlanks {selectors : List Selector} (hlength : selectors.length ≤ 30)
    (h : AllNarrow selectors) : SameRuns (dropBlanks selectors) selectors := by
  intro contents policy root delays
  rw [Storage.select, Storage.select, Evaluation.level_dropBlanks policy root hlength h]

theorem sameAnswers_of_dropBlanks {selectors others : List Selector} (h : dropBlanks selectors = dropBlanks others) :
    SameAnswers selectors others := by
  intro contents policy root delays delays' answer
  rw [← sameAnswers_dropBlanks selectors contents policy root delays delays answer, h]
  exact sameAnswers_dropBlanks others contents policy root delays delays' answer

theorem sameRuns_of_dropBlanks {selectors others : List Selector} (h : dropBlanks selectors = dropBlanks others)
    (hlength : selectors.length ≤ 30) (hn : AllNarrow selectors) (hlength' : others.length ≤ 30)
    (hn' : AllNarrow others) : SameRuns selectors others := by
  intro contents policy root delays
  rw [← sameRuns_dropBlanks hlength hn, ← sameRuns_dropBlanks hlength' hn', h]

end Selector

theorem Selector.allNarrow_append {selectors others : List Selector} :
    AllNarrow (selectors ++ others) ↔ AllNarrow selectors ∧ AllNarrow others := by
  induction selectors with
  | nil => simp [AllNarrow]
  | cons selector rest ih => simp only [List.cons_append, AllNarrow, ih, and_assoc]

theorem Request.allNarrow_append {requests others : List Request} :
    AllNarrow (requests ++ others) ↔ AllNarrow requests ∧ AllNarrow others := by
  induction requests with
  | nil => simp [AllNarrow]
  | cons request rest ih => simp only [List.cons_append, AllNarrow, ih, and_assoc]

namespace Selector.BlankInserted

variable {selectors others : List Selector}

theorem length_le (h : BlankInserted selectors others) : selectors.length ≤ others.length := by
  cases h <;> simp

theorem allNarrow (h : BlankInserted selectors others) (hn : AllNarrow others) : AllNarrow selectors := by
  induction h with
  | here before after _ =>
    rw [allNarrow_append] at hn ⊢
    exact ⟨hn.1, hn.2.2⟩
  | within before after name first last key hinner ih =>
    simp only [allNarrow_append, AllNarrow, Narrow, Request.allNarrow_append, Request.AllNarrow, Request.Narrow,
      List.length_append, List.length_cons] at hn ⊢
    obtain ⟨hbefore, ⟨hcount, hfirst, ⟨hlength, hothers⟩, hlast⟩, hafter⟩ := hn
    exact ⟨hbefore, ⟨hcount, hfirst, ⟨hinner.length_le.trans hlength, ih hothers⟩, hlast⟩, hafter⟩

end Selector.BlankInserted

/-- The document read with an empty path for each empty text asks for the same. -/
def Selector.SameKeeping (json : Json) (selectors : List Selector) : Prop :=
  ∃ kept, ofJsonKeeping json = .ok kept ∧ SameAnswers selectors kept ∧
    (kept.length ≤ 30 → AllNarrow kept → SameRuns selectors kept)

theorem Selector.sameKeeping_of_ofJson {json : Json} {selectors : List Selector}
    (h : ofJson json = .ok selectors) : SameKeeping json selectors := by
  rw [ofJson_eq_dropBlanks, Outcome.map_eq_ok_iff] at h
  obtain ⟨kept, hkept, rfl⟩ := h
  exact ⟨kept, hkept, sameAnswers_dropBlanks kept, sameRuns_dropBlanks⟩

/-- A blank selector more or less, in whichever list, makes no difference to the answer, and unless the longer
one has a crowd of siblings none to the run. So it is with lists that differ in blank ones alone, and so it does
not matter whether empty texts are left out while a document is read or kept as empty paths. -/
theorem Storage.select_blank :
    (∀ selectors others : List Selector, Selector.BlankInserted selectors others →
      Selector.SameAnswers selectors others ∧
        (others.length ≤ 30 → Selector.AllNarrow others → Selector.SameRuns selectors others)) ∧
    (∀ selectors others : List Selector,
      Selector.dropBlanks selectors = Selector.dropBlanks others →
      Selector.SameAnswers selectors others ∧
        (selectors.length ≤ 30 → Selector.AllNarrow selectors →
          others.length ≤ 30 → Selector.AllNarrow others → Selector.SameRuns selectors others)) ∧
    (∀ (json : Json) (selectors : List Selector), Selector.ofJson json = .ok selectors →
      Selector.SameKeeping json selectors) ∧
    ∀ (text : String) (selectors : List Selector), Selector.read text = .ok selectors →
      ∃ json, Json.readFirst text = .ok (json, []) ∧ Selector.SameKeeping json selectors := by
  refine ⟨fun selectors others h => ⟨?_, fun hl hn => ?_⟩, fun selectors others h => ⟨?_, fun hl hn hl' hn' => ?_⟩,
    fun json selectors => Selector.sameKeeping_of_ofJson, fun text selectors hread => ?_⟩
  · exact Selector.sameAnswers_of_dropBlanks (Selector.dropBlanks_of_inserted h)
  · exact Selector.sameRuns_of_dropBlanks (Selector.dropBlanks_of_inserted h) (h.length_le.trans hl)
      (h.allNarrow hn) hl hn
  · exact Selector.sameAnswers_of_dropBlanks h
  · exact Selector.sameRuns_of_dropBlanks h hl hn hl' hn'
  · obtain ⟨json, hfirst, hjson⟩ := Selector.read_eq_ok_iff.1 hread
    exact ⟨json, hfirst, Selector.sameKeeping_of_ofJson hjson⟩

/-- A blank one at the top and in a list that has nothing else. -/
theorem Storage.select_blank_nested :
    let document : Json := .array [.string "", .object [("ledger", .array [.object
      [("key", .string "a"), ("dataFields", .array [.string ""])]])], .string "p"]
    let selectors : List Selector := [.keys "ledger" [.within (.string "a") []], .path ⟨"p"⟩]
    let kept : List Selector :=
      [.path ⟨""⟩, .keys "ledger" [.within (.string "a") [.path ⟨""⟩]], .path ⟨"p"⟩]
    Selector.ofJson document = .ok selectors ∧ Selector.ofJsonKeeping document = .ok kept ∧
      Selector.SameAnswers selectors kept ∧ Selector.SameRuns selectors kept := by
  intro document selectors kept
  have hread : Selector.ofJson document = .ok selectors := rfl
  have hkept : Selector.ofJsonKeeping document = .ok kept := rfl
  obtain ⟨-, -, hkeeping, -⟩ := select_blank
  obtain ⟨found, hfound, hanswers, hruns⟩ := hkeeping document selectors hread
  rw [hkept] at hfound
  cases hfound
  exact ⟨hread, hkept, hanswers, hruns (by decide)
    (by simp [kept, Selector.AllNarrow, Selector.Narrow, Request.AllNarrow, Request.Narrow])⟩

end StorageQuery
