import Mathlib.Data.List.Basic
import StorageQuery.Indexer.Record
import StorageQuery.Proofs.Json.Reading
/-!
The grammar of records. A record names its members in any order, each of the three once at most, and any
others beside them; or it lists them in their order, the last ones left out. What is read is what the
grammar says, and a member that is not there has its default.
-/

set_option autoImplicit false

namespace StorageQuery.Indexer.Record

def IsJson (tokens : List Token) (json : Json) : Prop :=
  ∃ written, readJson tokens = .ok (written, []) ∧ json = written.collapse

def IsMark (tokens : List Token) (active : Bool) : Prop := tokens = [.bool active]

def IsOutline (tokens : List Token) : Prop := Outline.skip tokens = .ok []

def valuesOf (name : String) (members : List (String × List Token)) : List (List Token) :=
  (members.filter (·.1 == name)).map (·.2)

/-- What the only one of some values is; nothing, if there is none. -/
inductive Given {α : Type} (reads : List Token → α → Prop) : List (List Token) → Option α → Prop
  | absent : Given reads [] none
  | once {tokens : List Token} {a : α} : reads tokens a → Given reads [tokens] (some a)

structure Describes (members : List (String × List Token)) (draft : Draft) : Prop where
  key : Given IsJson (valuesOf "key" members) draft.key
  value : Given IsJson (valuesOf "value" members) draft.value
  active : Given IsMark (valuesOf "active" members) draft.active
  others : ∀ member ∈ members, member.1 ∉ names → IsOutline member.2

def separated : List (List Token) → List Token
  | [] => []
  | [tokens] => tokens
  | tokens :: next :: rest => tokens ++ .comma :: separated (next :: rest)

def memberTokens (member : String × List Token) : List Token := .string member.1 :: .colon :: member.2

inductive Spells : List Token → Record → Prop
  | object {members : List (String × List Token)} {draft : Draft} : Describes members draft →
    Spells (.openObject :: (separated (members.map memberTokens) ++ [.closeObject])) draft.finish
  | list {items : List (List Token)} {draft : Draft} :
    items.length ≤ names.length → Describes (names.zip items) draft →
    Spells (.openArray :: (separated items ++ [.closeArray])) draft.finish

def Draft.Takes (draft : Draft) (name : String) (tokens : List Token) (next : Draft) : Prop :=
  if name = "key" then ∃ json, IsJson tokens json ∧ next = { draft with key := some json }
  else if name = "value" then ∃ json, IsJson tokens json ∧ next = { draft with value := some json }
  else if name = "active" then ∃ active, IsMark tokens active ∧ next = { draft with active := some active }
  else IsOutline tokens ∧ next = draft

variable {draft next : Draft} {name : String} {tokens rest : List Token}

theorem name_cases (name : String) :
    name = "key" ∨ name = "value" ∨ name = "active" ∨ name ∉ names := by
  simp only [names, List.mem_cons, List.not_mem_nil, or_false]
  tauto

theorem readJson_eq_ok_iff {written : Json} :
    readJson tokens = .ok (written, rest) ↔
      ∃ used, tokens = used ++ rest ∧ readJson used = .ok (written, []) := by
  simp only [readJson, Outcome.mapError_eq_ok_iff]
  exact Reader.value_eq_ok_iff

theorem readJson_map_eq_ok_iff (set : Json → Draft) :
    (readJson tokens).map (fun (written, rest) => (set written.collapse, rest)) = .ok (next, rest) ↔
      ∃ used, tokens = used ++ rest ∧ ∃ json, IsJson used json ∧ next = set json := by
  simp only [Outcome.map_eq_ok_iff, Prod.exists, Prod.mk.injEq]
  constructor
  · rintro ⟨written, _, hread, rfl, rfl⟩
    obtain ⟨used, rfl, hused⟩ := readJson_eq_ok_iff.1 hread
    exact ⟨used, rfl, _, ⟨written, hused, rfl⟩, rfl⟩
  · rintro ⟨used, rfl, _, ⟨written, hused, rfl⟩, rfl⟩
    exact ⟨written, rest, readJson_eq_ok_iff.2 ⟨used, rfl, hused⟩, rfl, rfl⟩

theorem readMark_eq_ok_iff {active : Bool} :
    readMark tokens = .ok (active, rest) ↔ tokens = .bool active :: rest := by
  constructor
  · intro h
    unfold readMark at h
    split at h
    · obtain ⟨rfl, rfl⟩ := Prod.mk.inj (Except.ok.inj h)
      rfl
    · contradiction
    · contradiction
    · split at h <;> contradiction
  · rintro rfl
    rfl

theorem readMark_map_eq_ok_iff (set : Bool → Draft) :
    (readMark tokens).map (fun (active, rest) => (set active, rest)) = .ok (next, rest) ↔
      ∃ used, tokens = used ++ rest ∧ ∃ active, IsMark used active ∧ next = set active := by
  simp only [Outcome.map_eq_ok_iff, Prod.exists, Prod.mk.injEq]
  constructor
  · rintro ⟨active, _, hread, rfl, rfl⟩
    exact ⟨[.bool active], readMark_eq_ok_iff.1 hread, active, rfl, rfl⟩
  · rintro ⟨_, rfl, active, rfl, rfl⟩
    exact ⟨active, rest, rfl, rfl, rfl⟩

theorem skip_map_eq_ok_iff :
    ((Outline.skip tokens).mapError Json.Fault.text).map (fun rest => (draft, rest)) = .ok (next, rest) ↔
      ∃ used, tokens = used ++ rest ∧ IsOutline used ∧ next = draft := by
  simp only [Outcome.map_eq_ok_iff, Outcome.mapError_eq_ok_iff, Prod.mk.injEq]
  constructor
  · rintro ⟨_, hread, rfl, rfl⟩
    obtain ⟨used, rfl, hused⟩ := Outline.skip_eq_ok_iff.1 hread
    exact ⟨used, rfl, hused, rfl⟩
  · rintro ⟨used, rfl, hused, rfl⟩
    exact ⟨rest, Outline.skip_eq_ok_iff.2 ⟨used, rfl, hused⟩, rfl, rfl⟩

theorem readValue_eq_ok_iff :
    draft.readValue name tokens = .ok (next, rest) ↔
      ∃ used, tokens = used ++ rest ∧ draft.Takes name used next := by
  simp only [Draft.readValue, Draft.Takes]
  split
  · exact readJson_map_eq_ok_iff fun json => { draft with key := some json }
  split
  · exact readJson_map_eq_ok_iff fun json => { draft with value := some json }
  split
  · exact readMark_map_eq_ok_iff fun active => { draft with active := some active }
  · exact skip_map_eq_ok_iff

theorem admits_eq_ok_iff :
    draft.admits name = .ok () ↔
      (name = "key" → draft.key = none) ∧ (name = "value" → draft.value = none) ∧
        (name = "active" → draft.active = none) := by
  rw [Draft.admits]
  split
  · rename_i h
    simp only [Option.isSome_iff_ne_none] at h
    simp only [reduceCtorEq, false_iff]
    tauto
  · rename_i h
    simp only [Option.isSome_iff_ne_none] at h
    simp only [true_iff]
    tauto

def Draft.TakesAll : Draft → List (String × List Token) → Draft → Prop
  | draft, [], last => last = draft
  | draft, (name, tokens) :: rest, last =>
    draft.admits name = .ok () ∧ ∃ next, draft.Takes name tokens next ∧ next.TakesAll rest last

section
variable {other : String} {members : List (String × List Token)}

theorem valuesOf_cons_self : valuesOf name ((name, tokens) :: members) = tokens :: valuesOf name members := by
  simp [valuesOf]

theorem valuesOf_cons_ne (h : other ≠ name) :
    valuesOf name ((other, tokens) :: members) = valuesOf name members := by
  simp [valuesOf, h]

end

/-- What values give that come after one that may be held already. -/
def Kept {α : Type} (reads : List Token → α → Prop) (held : Option α) (values : List (List Token))
    (result : Option α) : Prop :=
  match held with
  | none => Given reads values result
  | some a => values = [] ∧ result = some a

section
variable {α : Type} {reads : List Token → α → Prop} {held result : Option α} {values : List (List Token)}

theorem kept_nil : Kept reads held [] result ↔ result = held := by
  cases held with
  | none =>
    constructor
    · rintro ⟨⟩
      rfl
    · rintro rfl
      exact .absent
  | some a => simp [Kept]

theorem kept_cons :
    Kept reads held (tokens :: values) result ↔
      held = none ∧ ∃ a, reads tokens a ∧ Kept reads (some a) values result := by
  cases held with
  | none =>
    constructor
    · rintro (_ | hreads)
      exact ⟨rfl, _, hreads, rfl, rfl⟩
    · rintro ⟨-, a, hreads, rfl, rfl⟩
      exact .once hreads
  | some a => simp [Kept]

end

/-- Each of the three members is settled by the values under its name alone. -/
theorem takesAll_iff {last : Draft} {members : List (String × List Token)} :
    draft.TakesAll members last ↔
      Kept IsJson draft.key (valuesOf "key" members) last.key ∧
        Kept IsJson draft.value (valuesOf "value" members) last.value ∧
        Kept IsMark draft.active (valuesOf "active" members) last.active ∧
        ∀ member ∈ members, member.1 ∉ names → IsOutline member.2 := by
  induction members generalizing draft with
  | nil =>
    have hnone (name : String) : valuesOf name [] = [] := rfl
    simp only [Draft.TakesAll, hnone, kept_nil, List.not_mem_nil, false_implies, implies_true, and_true]
    cases last
    cases draft
    simp only [Draft.mk.injEq]
  | cons member rest ih =>
    obtain ⟨name, tokens⟩ := member
    simp only [Draft.TakesAll, admits_eq_ok_iff, ih, List.forall_mem_cons]
    rcases name_cases name with rfl | rfl | rfl | hname
    · simp only [Draft.Takes, ↓reduceIte, valuesOf_cons_self, kept_cons, ne_eq, String.reduceEq,
        not_false_eq_true, valuesOf_cons_ne, true_implies, false_implies, and_true]
      constructor
      · rintro ⟨hfree, _, ⟨json, hjson, rfl⟩, hkey, hvalue, hactive, hothers⟩
        exact ⟨⟨hfree, json, hjson, hkey⟩, hvalue, hactive, fun h => absurd (by decide) h, hothers⟩
      · rintro ⟨⟨hfree, json, hjson, hkey⟩, hvalue, hactive, -, hothers⟩
        exact ⟨hfree, _, ⟨json, hjson, rfl⟩, hkey, hvalue, hactive, hothers⟩
    · simp only [Draft.Takes, ↓reduceIte, valuesOf_cons_self, kept_cons, ne_eq, String.reduceEq,
        not_false_eq_true, valuesOf_cons_ne, true_implies, false_implies, true_and, and_true]
      constructor
      · rintro ⟨hfree, _, ⟨json, hjson, rfl⟩, hkey, hvalue, hactive, hothers⟩
        exact ⟨hkey, ⟨hfree, json, hjson, hvalue⟩, hactive, fun h => absurd (by decide) h, hothers⟩
      · rintro ⟨hkey, ⟨hfree, json, hjson, hvalue⟩, hactive, -, hothers⟩
        exact ⟨hfree, _, ⟨json, hjson, rfl⟩, hkey, hvalue, hactive, hothers⟩
    · simp only [Draft.Takes, ↓reduceIte, valuesOf_cons_self, kept_cons, ne_eq, String.reduceEq,
        not_false_eq_true, valuesOf_cons_ne, true_implies, false_implies, true_and]
      constructor
      · rintro ⟨hfree, _, ⟨active, hmark, rfl⟩, hkey, hvalue, hactive, hothers⟩
        exact ⟨hkey, hvalue, ⟨hfree, active, hmark, hactive⟩, fun h => absurd (by decide) h, hothers⟩
      · rintro ⟨hkey, hvalue, ⟨hfree, active, hmark, hactive⟩, -, hothers⟩
        exact ⟨hfree, _, ⟨active, hmark, rfl⟩, hkey, hvalue, hactive, hothers⟩
    · obtain ⟨hkey, hvalue, hactive⟩ : name ≠ "key" ∧ name ≠ "value" ∧ name ≠ "active" := by
        simpa [names] using hname
      simp only [Draft.Takes, hkey, hvalue, hactive, ↓reduceIte, ne_eq, not_false_eq_true,
        valuesOf_cons_ne, false_implies, and_true, true_and, hname, true_implies]
      constructor
      · rintro ⟨_, ⟨houtline, rfl⟩, hkey, hvalue, hactive, hothers⟩
        exact ⟨hkey, hvalue, hactive, houtline, hothers⟩
      · rintro ⟨hkey, hvalue, hactive, houtline, hothers⟩
        exact ⟨draft, ⟨houtline, rfl⟩, hkey, hvalue, hactive, hothers⟩

theorem takesAll_iff_describes {members : List (String × List Token)} :
    Draft.TakesAll {} members draft ↔ Describes members draft := by
  rw [takesAll_iff]
  exact ⟨fun ⟨hkey, hvalue, hactive, hothers⟩ => ⟨hkey, hvalue, hactive, hothers⟩,
    fun ⟨hkey, hvalue, hactive, hothers⟩ => ⟨hkey, hvalue, hactive, hothers⟩⟩

theorem readName_eq_ok_iff :
    draft.readName tokens = .ok (name, rest) ↔
      tokens = .string name :: .colon :: rest ∧ draft.admits name = .ok () := by
  constructor
  · intro h
    unfold Draft.readName at h
    split at h
    · contradiction
    · rename_i first after
      split at h
      · contradiction
      · rename_i hadmits
        obtain ⟨rfl, rfl⟩ := Prod.mk.inj (Except.ok.inj h)
        exact ⟨rfl, hadmits⟩
      · contradiction
      · contradiction
    · contradiction
    · contradiction
    · contradiction
  · rintro ⟨rfl, hadmits⟩
    simp [Draft.readName, hadmits]

theorem readMembers_step {last : Draft} :
    draft.readMembers tokens = .ok (last, rest) ↔
      ∃ name used next after, tokens = memberTokens (name, used) ++ after ∧
        draft.admits name = .ok () ∧ draft.Takes name used next ∧
        ((after = .closeObject :: rest ∧ last = next) ∨
          ∃ more, after = .comma :: more ∧ next.readMembers more = .ok (last, rest)) := by
  constructor
  · intro h
    rw [Draft.readMembers] at h
    split at h
    · contradiction
    rename_i name value hname
    split at h
    · contradiction
    rename_i next after hvalue
    obtain ⟨rfl, hadmits⟩ := readName_eq_ok_iff.1 hname
    obtain ⟨used, rfl, htakes⟩ := readValue_eq_ok_iff.1 hvalue
    refine ⟨name, used, next, after, rfl, hadmits, htakes, ?_⟩
    split at h
    · contradiction
    · obtain ⟨rfl, rfl⟩ := Prod.mk.inj (Except.ok.inj h)
      exact .inl ⟨rfl, rfl⟩
    · contradiction
    · exact .inr ⟨_, rfl, h⟩
    · contradiction
  · rintro ⟨name, used, next, after, rfl, hadmits, htakes, h⟩
    have hname : draft.readName (memberTokens (name, used) ++ after) = .ok (name, used ++ after) :=
      readName_eq_ok_iff.2 ⟨rfl, hadmits⟩
    have hvalue : draft.readValue name (used ++ after) = .ok (next, after) :=
      readValue_eq_ok_iff.2 ⟨used, rfl, htakes⟩
    rw [Draft.readMembers]
    split
    · rename_i fault hfault
      rw [hname] at hfault
      contradiction
    rename_i name' value hname'
    obtain ⟨rfl, rfl⟩ := Prod.mk.inj (Except.ok.inj (hname.symm.trans hname'))
    split
    · rename_i fault hfault
      rw [hvalue] at hfault
      contradiction
    rename_i next' after' hvalue'
    obtain ⟨rfl, rfl⟩ := Prod.mk.inj (Except.ok.inj (hvalue.symm.trans hvalue'))
    rcases h with ⟨rfl, rfl⟩ | ⟨more, rfl, hmore⟩
    · rfl
    cases more with
    | nil => exact hmore
    | cons token more =>
      cases token
      case closeObject =>
        rw [Draft.readMembers] at hmore
        contradiction
      all_goals exact hmore

theorem separated_cons {items : List (List Token)} (h : items ≠ []) :
    separated (tokens :: items) = tokens ++ .comma :: separated items := by
  cases items with
  | nil => exact absurd rfl h
  | cons item items => rfl

theorem readMembers_eq_ok_iff {last : Draft} :
    draft.readMembers tokens = .ok (last, rest) ↔
      ∃ members, members ≠ [] ∧ tokens = separated (members.map memberTokens) ++ .closeObject :: rest ∧
        draft.TakesAll members last := by
  constructor
  · intro h
    -- On the number of tokens: what stands after a member's comma is shorter than what stands before it.
    induction hn : tokens.length using Nat.strongRecOn generalizing draft tokens with
    | ind n ih =>
      obtain ⟨name, used, next, after, rfl, hadmits, htakes, hafter⟩ := readMembers_step.1 h
      rcases hafter with ⟨rfl, rfl⟩ | ⟨more, rfl, hmore⟩
      · exact ⟨[(name, used)], by simp, rfl, hadmits, _, htakes, rfl⟩
      · have hless : more.length < n := by
          subst hn
          simp only [memberTokens, List.length_append, List.length_cons]
          omega
        obtain ⟨members, hne, rfl, hall⟩ := ih _ hless hmore rfl
        refine ⟨(name, used) :: members, by simp, ?_, hadmits, next, htakes, hall⟩
        rw [List.map_cons, separated_cons (by simpa using hne)]
        simp
  · rintro ⟨members, hne, rfl, hall⟩
    induction members generalizing draft with
    | nil => exact absurd rfl hne
    | cons member members ih =>
      obtain ⟨name, used⟩ := member
      obtain ⟨hadmits, next, htakes, hall⟩ := hall
      rw [readMembers_step]
      cases members with
      | nil =>
        refine ⟨name, used, next, .closeObject :: rest, rfl, hadmits, htakes, .inl ⟨rfl, hall⟩⟩
      | cons member members =>
        refine ⟨name, used, next, _, ?_, hadmits, htakes, .inr ⟨_, rfl, ih (by simp) hall⟩⟩
        rw [List.map_cons, separated_cons (by simp), List.append_assoc]
        rfl

theorem readValue_closeArray : draft.readValue name (.closeArray :: rest) = .error (.text .noValue) := by
  simp only [Draft.readValue]
  split
  · rfl
  split
  · rfl
  split <;> rfl

theorem readItems_step {last : Draft} {names : List String} :
    draft.readItems (name :: names) tokens = .ok (last, rest) ↔
      ∃ used next after, tokens = used ++ after ∧ draft.Takes name used next ∧
        ((after = .closeArray :: rest ∧ last = next) ∨
          ∃ more, after = .comma :: more ∧ next.readItems names more = .ok (last, rest)) := by
  constructor
  · intro h
    unfold Draft.readItems at h
    split at h
    · contradiction
    rename_i next after hvalue
    obtain ⟨used, rfl, htakes⟩ := readValue_eq_ok_iff.1 hvalue
    refine ⟨used, next, after, rfl, htakes, ?_⟩
    split at h
    · contradiction
    · obtain ⟨rfl, rfl⟩ := Prod.mk.inj (Except.ok.inj h)
      exact .inl ⟨rfl, rfl⟩
    · contradiction
    · exact .inr ⟨_, rfl, h⟩
    · contradiction
  · rintro ⟨used, next, after, rfl, htakes, h⟩
    have hvalue : draft.readValue name (used ++ after) = .ok (next, after) :=
      readValue_eq_ok_iff.2 ⟨used, rfl, htakes⟩
    simp only [Draft.readItems, hvalue]
    rcases h with ⟨rfl, rfl⟩ | ⟨more, rfl, hmore⟩
    · rfl
    cases more with
    | nil => exact hmore
    | cons token more =>
      cases token
      case closeArray =>
        cases names with
        | nil => contradiction
        | cons name names =>
          rw [Draft.readItems, readValue_closeArray] at hmore
          contradiction
      all_goals exact hmore

theorem admits_of_takes {other : String} (h : draft.Takes name tokens next) (hne : other ≠ name) :
    next.admits other = .ok () ↔ draft.admits other = .ok () := by
  simp only [admits_eq_ok_iff]
  rw [Draft.Takes] at h
  split at h
  · rename_i hname
    obtain ⟨json, -, rfl⟩ := h
    simp only [← hname, hne, false_implies]
  split at h
  · rename_i hname
    obtain ⟨json, -, rfl⟩ := h
    simp only [← hname, hne, false_implies]
  split at h
  · rename_i hname
    obtain ⟨active, -, rfl⟩ := h
    simp only [← hname, hne, false_implies]
  · rw [h.2]

theorem readItems_eq_ok_iff {last : Draft} {names : List String} (hnodup : names.Nodup)
    (hfree : ∀ name ∈ names, draft.admits name = .ok ()) :
    draft.readItems names tokens = .ok (last, rest) ↔
      ∃ items, items ≠ [] ∧ items.length ≤ names.length ∧
        tokens = separated items ++ .closeArray :: rest ∧ draft.TakesAll (names.zip items) last := by
  induction names generalizing draft tokens with
  | nil =>
    constructor
    · nofun
    · rintro ⟨items, hne, hlength, -⟩
      exact absurd (List.eq_nil_of_length_eq_zero (Nat.le_zero.1 hlength)) hne
  | cons name names ih =>
    obtain ⟨hname, hnodup⟩ := List.nodup_cons.1 hnodup
    obtain ⟨hadmits, hfree⟩ := List.forall_mem_cons.1 hfree
    have hnext {used : List Token} {next : Draft} (htakes : draft.Takes name used next) :
        ∀ other ∈ names, next.admits other = .ok () := by
      intro other hother
      have hne : other ≠ name := fun heq => hname (heq ▸ hother)
      exact (admits_of_takes htakes hne).2 (hfree other hother)
    rw [readItems_step]
    constructor
    · rintro ⟨used, next, after, rfl, htakes, ⟨rfl, rfl⟩ | ⟨more, rfl, hmore⟩⟩
      · exact ⟨[used], by simp, by simp, rfl, hadmits, _, htakes, by simp [Draft.TakesAll]⟩
      · obtain ⟨items, hne, hlength, rfl, hall⟩ := (ih hnodup (hnext htakes)).1 hmore
        refine ⟨used :: items, by simp, by simpa using hlength, ?_, hadmits, next, htakes, hall⟩
        rw [separated_cons hne, List.append_assoc]
        rfl
    · rintro ⟨items, hne, hlength, rfl, hall⟩
      match items with
      | [] => exact absurd rfl hne
      | [used] =>
        obtain ⟨-, next, htakes, hall⟩ := hall
        refine ⟨used, next, _, rfl, htakes, .inl ⟨rfl, ?_⟩⟩
        simpa [Draft.TakesAll] using hall
      | used :: item :: items =>
        obtain ⟨-, next, htakes, hall⟩ := hall
        refine ⟨used, next, _, ?_, htakes, .inr ⟨_, rfl,
          (ih hnodup (hnext htakes)).2 ⟨item :: items, by simp, by simpa using hlength, rfl, hall⟩⟩⟩
        rw [separated_cons (by simp), List.append_assoc]
        rfl

theorem readTokens_openObject (h : ({} : Draft).readMembers tokens = .ok (next, rest)) :
    readTokens (.openObject :: tokens) = .ok (next.finish, rest) := by
  cases tokens with
  | nil =>
    rw [Draft.readMembers] at h
    contradiction
  | cons token tokens =>
    cases token
    case closeObject =>
      rw [Draft.readMembers] at h
      contradiction
    all_goals
      simp only [readTokens, h]
      rfl

theorem readTokens_openArray (h : ({} : Draft).readItems names tokens = .ok (next, rest)) :
    readTokens (.openArray :: tokens) = .ok (next.finish, rest) := by
  cases tokens with
  | nil => contradiction
  | cons token tokens =>
    cases token
    case closeArray =>
      rw [names, Draft.readItems, readValue_closeArray] at h
      contradiction
    all_goals
      simp only [readTokens, h]
      rfl

/-- What is read as a record with nothing behind it is what spells one. -/
theorem readTokens_eq_ok_iff {record : Record} :
    readTokens tokens = .ok (record, []) ↔ Spells tokens record := by
  have hnames : names.Nodup := by decide
  have hfree : ∀ name ∈ names, ({} : Draft).admits name = .ok () :=
    fun _ _ => admits_eq_ok_iff.2 ⟨fun _ => rfl, fun _ => rfl, fun _ => rfl⟩
  have hnone : Describes [] {} := takesAll_iff_describes.1 rfl
  constructor
  · intro h
    unfold readTokens at h
    split at h
    · contradiction
    · obtain ⟨rfl, rfl⟩ := Prod.mk.inj (Except.ok.inj h)
      exact @Spells.list [] {} (by simp) hnone
    · rename_i tokens _ _
      obtain ⟨⟨draft, rest⟩, hread, heq⟩ := Outcome.map_eq_ok_iff.1 h
      obtain ⟨rfl, rfl⟩ := Prod.mk.inj heq
      obtain ⟨items, -, hlength, rfl, hall⟩ := (readItems_eq_ok_iff hnames hfree).1 hread
      exact .list hlength (takesAll_iff_describes.1 hall)
    · contradiction
    · obtain ⟨rfl, rfl⟩ := Prod.mk.inj (Except.ok.inj h)
      exact @Spells.object [] {} hnone
    · rename_i tokens _ _
      obtain ⟨⟨draft, rest⟩, hread, heq⟩ := Outcome.map_eq_ok_iff.1 h
      obtain ⟨rfl, rfl⟩ := Prod.mk.inj heq
      obtain ⟨members, -, rfl, hall⟩ := readMembers_eq_ok_iff.1 hread
      exact .object (takesAll_iff_describes.1 hall)
    · split at h <;> contradiction
  · rintro (@⟨members, draft, hdescribes⟩ | @⟨items, draft, hlength, hdescribes⟩)
    · have hall := takesAll_iff_describes.2 hdescribes
      by_cases hempty : members = []
      · subst hempty
        cases hall
        rfl
      · exact readTokens_openObject (readMembers_eq_ok_iff.2 ⟨members, hempty, rfl, hall⟩)
    · have hall := takesAll_iff_describes.2 hdescribes
      by_cases hempty : items = []
      · subst hempty
        cases hall
        rfl
      · exact readTokens_openArray
          ((readItems_eq_ok_iff hnames hfree).2 ⟨items, hempty, hlength, rfl, hall⟩)

theorem alone_eq_ok_iff {α : Type} {a b : α} : alone (a, rest) = .ok b ↔ rest = [] ∧ a = b := by
  cases rest <;> simp [alone]

theorem not_spells_null {record : Record} : ¬ Spells (.null :: rest) record := nofun

/-- The body of a response is a null, or it spells a record. -/
theorem readBody_eq_ok_iff {bytes : List UInt8} {found : Option Record} :
    readBody bytes = .ok found ↔
      (bodyTokens bytes = [.null] ∧ found = none) ∨
        ∃ record, Spells (bodyTokens bytes) record ∧ found = some record := by
  rw [readBody]
  split
  · rename_i rest hnull
    rw [alone_eq_ok_iff, hnull]
    simp [not_spells_null, eq_comm]
  · rename_i hnull
    have hne : bodyTokens bytes ≠ [.null] := fun heq => hnull [] heq
    simp only [hne, false_and, false_or, ← readTokens_eq_ok_iff, Outcome.bind_eq_ok_iff, Prod.exists,
      alone_eq_ok_iff, pure, Except.pure, Except.ok.injEq]
    constructor
    · rintro ⟨record, _, hread, _, ⟨rfl, rfl⟩, rfl⟩
      exact ⟨record, hread, rfl⟩
    · rintro ⟨record, hread, rfl⟩
      exact ⟨record, [], hread, record, ⟨rfl, rfl⟩, rfl⟩

end StorageQuery.Indexer.Record
