import StorageQuery.Selector
import StorageQuery.Proofs.Key.Encoding
import StorageQuery.Proofs.Outcome
set_option autoImplicit false

namespace StorageQuery

mutual
/-- Neither the selector nor any that it goes on with is blank. -/
def Selector.Unblank : Selector → Prop
  | .path path => (Selector.path path).isBlank = false
  | .keys _ requests => Request.AllUnblank requests
def Selector.AllUnblank : List Selector → Prop
  | [] => True
  | selector :: rest => selector.Unblank ∧ Selector.AllUnblank rest
def Request.Unblank : Request → Prop
  | .whole _ => True
  | .within _ selectors => Selector.AllUnblank selectors
def Request.AllUnblank : List Request → Prop
  | [] => True
  | request :: rest => request.Unblank ∧ Request.AllUnblank rest
end

namespace Selector

namespace Grammar

mutual
/-- An item of a list, and the selector that it says unless it is blank. -/
inductive Item : Json → Option Selector → Prop
  | emptyText : Item (.string "") none
  | emptyObject : Item (.object []) none
  | path {text : String} : text ≠ "" → Item (.string text) (some (.path ⟨text⟩))
  | keys {name : String} {entries : List Json} {requests : List Request} :
    Entries entries requests → Item (.object [(name, .array entries)]) (some (.keys name requests))
inductive Items : List Json → List Selector → Prop
  | nil : Items [] []
  | cons {item : Json} {rest : List Json} {selector : Option Selector} {selectors : List Selector} :
    Item item selector → Items rest selectors → Items (item :: rest) (selector.toList ++ selectors)
/-- An entry gives its key and, if it goes on, its data fields, by name or in this order. -/
inductive Entry : Json → Request → Prop
  | object {members : List (String × Json)} {key : Key} {selectors : Option (List Selector)} :
    (∀ member ∈ members, member.1 = "key" ∨ member.1 = "dataFields") →
    Table.find? (· == ·) "key" members = some key.toJson →
    Nested (Table.find? (· == ·) "dataFields" members) selectors →
    Entry (.object members) (Request.make key selectors)
  | list {key : Key} {nested : Option Json} {selectors : Option (List Selector)} :
    Nested nested selectors → Entry (.array (key.toJson :: nested.toList)) (Request.make key selectors)
inductive Entries : List Json → List Request → Prop
  | nil : Entries [] []
  | cons {entry : Json} {rest : List Json} {request : Request} {requests : List Request} :
    Entry entry request → Entries rest requests → Entries (entry :: rest) (request :: requests)
/-- Data fields that are left out or null give no list; a list of blanks alone gives an empty one. -/
inductive Nested : Option Json → Option (List Selector) → Prop
  | absent : Nested none none
  | null : Nested (some .null) none
  | list {items : List Json} {selectors : List Selector} :
    Items items selectors → Nested (some (.array items)) (some selectors)
end

end Grammar

open Grammar

section
variable {resolve : Wire → Except ShapeFault (Option Selector)}

theorem readWires_eq_ok_iff {items : List Json} {wires : List Wire} :
    readWires resolve items = .ok wires ↔ wires? resolve items = some wires := by
  induction items generalizing wires with
  | nil => simp [readWires, wires?]
  | cons item rest ih =>
    rw [readWires, wires?]
    cases wire? resolve item with
    | none => simp
    | some wire =>
      simp only [Outcome.map_eq_ok_iff, ih, Option.bind_eq_bind, Option.bind_some,
        Option.bind_eq_some_iff, Option.pure_def, Option.some.injEq]

theorem resolveAll_cons_eq_ok_iff {wire : Wire} {rest : List Wire} {selectors : List Selector} :
    Wire.resolveAll resolve (wire :: rest) = .ok selectors ↔
      ∃ selector others, resolve wire = .ok selector ∧ Wire.resolveAll resolve rest = .ok others ∧
        selectors = selector.toList ++ others := by
  simp only [Wire.resolveAll, Outcome.bind_eq_ok_iff, pure, Except.pure, Except.ok.injEq]
  grind

theorem wires?_cons_eq_some_iff {item : Json} {rest : List Json} {wires : List Wire} :
    wires? resolve (item :: rest) = some wires ↔
      ∃ wire others, wire? resolve item = some wire ∧ wires? resolve rest = some others ∧
        wires = wire :: others := by
  simp only [wires?, Option.bind_eq_bind, Option.bind_eq_some_iff, Option.pure_def, Option.some.injEq]
  grind

theorem requests?_cons_eq_some_iff {item : Json} {rest : List Json} {requests : List Request} :
    requests? resolve (item :: rest) = some requests ↔
      ∃ request others, request? resolve item = some request ∧ requests? resolve rest = some others ∧
        requests = request :: others := by
  simp only [requests?, Option.bind_eq_bind, Option.bind_eq_some_iff, Option.pure_def, Option.some.injEq]
  grind

theorem fields?_cons_eq_some_iff {name : String} {json : Json} {rest : List (String × Json)}
    {named : List (String × List Request)} :
    fields? resolve ((name, json) :: rest) = some named ↔
      ∃ requests others, requestList? resolve json = some requests ∧ fields? resolve rest = some others ∧
        named = (name, requests) :: others := by
  simp only [fields?, Option.bind_eq_bind, Option.bind_eq_some_iff, Option.pure_def, Option.some.injEq]
  grind

theorem keys_of_fields? {members : List (String × Json)} {named : List (String × List Request)}
    (h : fields? resolve members = some named) : Table.keys named = Table.keys members := by
  induction members generalizing named with
  | nil => cases h; rfl
  | cons member rest ih =>
    obtain ⟨requests, others, -, ho, rfl⟩ := fields?_cons_eq_some_iff.1 h
    simpa [Table.keys] using ih ho

end

theorem wire?_object_of_two {first second : String × Json} {rest : List (String × Json)}
    (hd : Table.Distinct (· == ·) (first :: second :: rest)) {wire : Wire}
    (h : wire? Wire.resolve (.object (first :: second :: rest)) = some wire) (selector : Option Selector) :
    wire.resolve ≠ .ok selector := by
  rw [wire?] at h
  obtain ⟨named, hnamed, rfl⟩ := Option.map_eq_some_iff.1 h
  have hdistinct : Table.Distinct (· == ·) named := by
    rw [Table.Distinct, keys_of_fields? hnamed]
    exact hd
  rw [Table.ofList_of_distinct hdistinct]
  obtain ⟨_, _, -, hrest, rfl⟩ := fields?_cons_eq_some_iff.1 hnamed
  obtain ⟨_, _, -, -, rfl⟩ := fields?_cons_eq_some_iff.1 hrest
  nofun

theorem item_string_iff {text : String} {selector : Option Selector} :
    (∃ wire, wire? Wire.resolve (.string text) = some wire ∧ wire.resolve = .ok selector) ↔
      Item (.string text) selector := by
  have hwire : (∃ wire, wire? Wire.resolve (.string text) = some wire ∧ wire.resolve = .ok selector) ↔
      (if text = "" then none else some (ofText text)) = selector := by
    simp [wire?, Wire.resolve]
  rw [hwire]
  constructor
  · rintro rfl
    split
    · rename_i htext
      exact htext ▸ .emptyText
    · rename_i htext
      exact .path htext
  · intro h
    cases h with
    | emptyText => rfl
    | path htext => exact if_neg htext

theorem item_object_iff {members : List (String × Json)} (hd : Table.Distinct (· == ·) members)
    (hlist : ∀ member ∈ members, ∀ requests, requestList? Wire.resolve member.2 = some requests ↔
      ∃ entries, member.2 = .array entries ∧ Entries entries requests)
    {selector : Option Selector} :
    (∃ wire, wire? Wire.resolve (.object members) = some wire ∧ wire.resolve = .ok selector) ↔
      Item (.object members) selector := by
  match members with
  | [] =>
    constructor
    · rintro ⟨wire, hw, hr⟩
      cases hw
      cases hr
      exact .emptyObject
    · rintro ⟨⟩
      exact ⟨.fields [], rfl, rfl⟩
  | [(name, body)] =>
    have hbody := hlist (name, body) List.mem_cons_self
    constructor
    · rintro ⟨wire, hw, hr⟩
      obtain ⟨named, hnamed, rfl⟩ := Option.map_eq_some_iff.1 hw
      obtain ⟨requests, others, hrequests, hnil, rfl⟩ := fields?_cons_eq_some_iff.1 hnamed
      cases hnil
      cases hr
      obtain ⟨entries, heq, hentries⟩ := (hbody requests).1 hrequests
      cases heq
      exact .keys hentries
    · intro h
      cases h with
      | keys hentries =>
        have hrequests := (hbody _).2 ⟨_, rfl, hentries⟩
        exact ⟨_, by rw [wire?, fields?_cons_eq_some_iff.2 ⟨_, [], hrequests, rfl, rfl⟩]; rfl, rfl⟩
  | _ :: _ :: _ =>
    constructor
    · rintro ⟨wire, hw, hr⟩
      exact absurd hr (wire?_object_of_two hd hw selector)
    · nofun

theorem draft?_eq_some_iff {members : List (String × Json)} (hd : Table.Distinct (· == ·) members)
    {draft : Draft} :
    draft? Wire.resolve members = some draft ↔
      (∀ member ∈ members, member.1 = "key" ∨ member.1 = "dataFields") ∧
      (Table.find? (· == ·) "key" members).map Key.decode? = draft.key.map some ∧
      (Table.find? (· == ·) "dataFields" members).map (nested? Wire.resolve) =
        draft.nested.map some := by
  induction members generalizing draft with
  | nil =>
    obtain ⟨key, nested⟩ := draft
    cases key <;> cases nested <;> simp [draft?]
  | cons member rest ih =>
    obtain ⟨name, json⟩ := member
    obtain ⟨hfirst, hrest⟩ := List.pairwise_cons.1 hd
    have hnew : Table.find? (· == ·) name rest = none := Table.find?_eq_none_iff.2 fun other ho => by
      rw [beq_eq_false_iff_ne]
      exact fun heq => ne_of_beq_false (hfirst other ho) heq.symm
    obtain ⟨key, nested⟩ := draft
    simp only [draft?, Option.bind_eq_bind, Option.bind_eq_some_iff, ih hrest, Table.find?_cons,
      List.forall_mem_cons]
    by_cases hkey : name = "key"
    · subst hkey
      constructor
      · rintro ⟨before, ⟨hnames, hk, hn⟩, hread⟩
        have hnone : before.key = none := Option.map_eq_none_iff.1 (hnew ▸ hk).symm
        simp only [hnone, Option.isNone_none, and_self, ↓reduceIte, Option.bind_eq_some_iff] at hread
        obtain ⟨found, hfound, heq⟩ := hread
        cases heq
        exact ⟨⟨.inl rfl, hnames⟩, by simp [hfound], by simpa using hn⟩
      · rintro ⟨⟨-, hnames⟩, hk, hn⟩
        obtain ⟨found, rfl, hfound⟩ : ∃ found, key = some found ∧ some found = Key.decode? json := by
          simpa [eq_comm] using hk
        exact ⟨⟨none, nested⟩, ⟨hnames, by simp [hnew], by simpa using hn⟩, by simp [← hfound]⟩
    by_cases hnested : name = "dataFields"
    · subst hnested
      constructor
      · rintro ⟨before, ⟨hnames, hk, hn⟩, hread⟩
        have hnone : before.nested = none := Option.map_eq_none_iff.1 (hnew ▸ hn).symm
        simp only [hkey, false_and, hnone, Option.isNone_none, and_self, ↓reduceIte,
          Option.bind_eq_some_iff] at hread
        obtain ⟨found, hfound, heq⟩ := hread
        cases heq
        exact ⟨⟨.inr rfl, hnames⟩, by simpa using hk, by simp [hfound]⟩
      · rintro ⟨⟨-, hnames⟩, hk, hn⟩
        obtain ⟨found, rfl, hfound⟩ :
            ∃ found, nested = some found ∧ some found = nested? Wire.resolve json := by
          simpa [eq_comm] using hn
        exact ⟨⟨key, none⟩, ⟨hnames, by simpa using hk, by simp [hnew]⟩, by simp [← hfound]⟩
    · simp [hkey, hnested]

theorem request?_object_eq_some_iff {members : List (String × Json)}
    (hc : (Json.object members).Collapsed)
    (hnested : ∀ member ∈ members, ∀ selectors,
      nested? Wire.resolve member.2 = some selectors ↔ Nested (some member.2) selectors) {request : Request} :
    request? Wire.resolve (.object members) = some request ↔ Entry (.object members) request := by
  rw [request?, Option.bind_eq_some_iff]
  constructor
  · rintro ⟨⟨key, nested⟩, hdraft, hfinish⟩
    obtain ⟨hnames, hk, hn⟩ := (draft?_eq_some_iff hc.1).1 hdraft
    obtain ⟨found, rfl, rfl⟩ := Option.map_eq_some_iff.1 hfinish
    obtain ⟨json, hjson, hfound⟩ := Option.map_eq_some_iff.1 hk
    obtain ⟨_, hname, hmem⟩ := Table.mem_of_find? hjson
    have hcollapsed := Json.collapsedMembers_iff.1 hc.2 _ hmem
    refine .object hnames (by rw [hjson, (Key.decode?_eq_some_iff hcollapsed).1 hfound]) ?_
    cases hd : Table.find? (· == ·) "dataFields" members with
    | none =>
      have hnone : nested = none := Option.map_eq_none_iff.1 (hd ▸ hn).symm
      exact hnone ▸ .absent
    | some json =>
      obtain ⟨selectors, rfl, hs⟩ :
          ∃ selectors, nested = some selectors ∧ some selectors = nested? Wire.resolve json := by
        simpa [hd, eq_comm] using hn
      obtain ⟨_, -, hmem⟩ := Table.mem_of_find? hd
      exact (hnested _ hmem selectors).1 hs.symm
  · intro h
    cases h with
    | @object _ key selectors hnames hk hn =>
      obtain ⟨_, -, hmem⟩ := Table.mem_of_find? hk
      have hcollapsed := Json.collapsedMembers_iff.1 hc.2 _ hmem
      have hfound := (Key.decode?_eq_some_iff hcollapsed).2 rfl
      cases hd : Table.find? (· == ·) "dataFields" members with
      | none =>
        rw [hd] at hn
        cases hn
        exact ⟨⟨some key, none⟩, (draft?_eq_some_iff hc.1).2 ⟨hnames, by simp [hk, hfound], by simp [hd]⟩, rfl⟩
      | some json =>
        rw [hd] at hn
        obtain ⟨_, -, hmem⟩ := Table.mem_of_find? hd
        have hs := (hnested _ hmem selectors).2 hn
        exact ⟨⟨some key, some selectors⟩,
          (draft?_eq_some_iff hc.1).2 ⟨hnames, by simp [hk, hfound], by simp [hd, hs]⟩, rfl⟩

theorem entry_array_iff {items : List Json} {request : Request} :
    Entry (.array items) request ↔
      ∃ key nested selectors, items = key.toJson :: Option.toList nested ∧ Nested nested selectors ∧
        request = Request.make key selectors := by
  constructor
  · intro h
    generalize hjson : Json.array items = json at h
    cases h with
    | object => cases hjson
    | list hn =>
      cases hjson
      exact ⟨_, _, _, rfl, hn, rfl⟩
  · rintro ⟨key, nested, selectors, rfl, hn, rfl⟩
    exact .list hn

theorem request?_array_eq_some_iff {items : List Json} (hc : Json.CollapsedItems items)
    (hnested : ∀ item ∈ items, ∀ selectors,
      nested? Wire.resolve item = some selectors ↔ Nested (some item) selectors) {request : Request} :
    request? Wire.resolve (.array items) = some request ↔ Entry (.array items) request := by
  rw [entry_array_iff]
  match items with
  | [] => simp [request?]
  | [json] =>
    simp only [request?, Option.map_eq_some_iff, Key.decode?_eq_some_iff hc.1]
    constructor
    · rintro ⟨key, rfl, rfl⟩
      exact ⟨key, none, none, rfl, .absent, rfl⟩
    · rintro ⟨key, nested, selectors, heq, hn, rfl⟩
      cases hn <;> simp_all [Request.make]
  | [json, nested] =>
    have hlast := hnested nested (by simp)
    simp only [request?, Option.bind_eq_bind, Option.bind_eq_some_iff, Option.pure_def,
      Option.some.injEq, Key.decode?_eq_some_iff hc.1, hlast]
    constructor
    · rintro ⟨key, rfl, selectors, hn, rfl⟩
      exact ⟨key, some nested, selectors, rfl, hn, rfl⟩
    · rintro ⟨key, nested', selectors, heq, hn, rfl⟩
      cases nested' with
      | none => simp at heq
      | some nested' =>
        simp only [Option.toList_some, List.cons.injEq, and_true] at heq
        exact ⟨key, heq.1.symm, selectors, heq.2 ▸ hn, rfl⟩
  | _ :: _ :: _ :: _ =>
    simp only [request?, reduceCtorEq, false_iff]
    rintro ⟨key, nested, selectors, heq, -⟩
    cases nested <;> simp at heq

mutual
theorem item_iff : (json : Json) → json.Collapsed → {selector : Option Selector} →
    ((∃ wire, wire? Wire.resolve json = some wire ∧ wire.resolve = .ok selector) ↔ Item json selector)
  | .null, _, _ | .bool _, _, _ | .number _, _, _ | .array _, _, _ =>
    ⟨fun ⟨_, h, _⟩ => (nomatch h), nofun⟩
  | .string _, _, _ => item_string_iff
  | .object members, hc, _ => item_object_iff hc.1 fun member hm =>
    (members_iff members hc.2 member hm).1
theorem items_iff : (items : List Json) → Json.CollapsedItems items → {selectors : List Selector} →
    ((∃ wires, wires? Wire.resolve items = some wires ∧ Wire.resolveAll Wire.resolve wires = .ok selectors) ↔
      Items items selectors)
  | [], _, _ => by
    constructor
    · rintro ⟨wires, hw, hr⟩
      cases hw
      cases hr
      exact .nil
    · rintro ⟨⟩
      exact ⟨[], rfl, rfl⟩
  | item :: rest, hc, _ => by
    constructor
    · rintro ⟨wires, hw, hr⟩
      obtain ⟨wire, others, hwire, hothers, rfl⟩ := wires?_cons_eq_some_iff.1 hw
      obtain ⟨selector, selectors, hs, ho, rfl⟩ := resolveAll_cons_eq_ok_iff.1 hr
      exact .cons ((item_iff item hc.1).1 ⟨wire, hwire, hs⟩)
        ((items_iff rest hc.2).1 ⟨others, hothers, ho⟩)
    · intro h
      cases h with
      | cons hitem hrest =>
        obtain ⟨wire, hwire, hs⟩ := (item_iff item hc.1).2 hitem
        obtain ⟨others, hothers, ho⟩ := (items_iff rest hc.2).2 hrest
        exact ⟨wire :: others, wires?_cons_eq_some_iff.2 ⟨wire, others, hwire, hothers, rfl⟩,
          resolveAll_cons_eq_ok_iff.2 ⟨_, _, hs, ho, rfl⟩⟩
theorem members_iff : (members : List (String × Json)) → Json.CollapsedMembers members →
    ∀ member ∈ members,
      (∀ requests, requestList? Wire.resolve member.2 = some requests ↔
        ∃ entries, member.2 = .array entries ∧ Entries entries requests) ∧
      ∀ selectors, nested? Wire.resolve member.2 = some selectors ↔ Nested (some member.2) selectors
  | [], _, _, hm => nomatch hm
  | (name, json) :: rest, hc, member, hm => by
    cases hm with
    | head => exact ⟨fun _ => requestList_iff json hc.1, fun _ => nested_iff json hc.1⟩
    | tail _ hm => exact members_iff rest hc.2 member hm
theorem requestList_iff : (json : Json) → json.Collapsed → {requests : List Request} →
    (requestList? Wire.resolve json = some requests ↔ ∃ entries, json = .array entries ∧ Entries entries requests)
  | .array items, hc, _ => by
    rw [requestList?, entries_iff items hc]
    simp
  | .null, _, _ | .bool _, _, _ | .number _, _, _ | .string _, _, _ | .object _, _, _ =>
    ⟨nofun, fun ⟨_, h, _⟩ => (nomatch h)⟩
theorem entries_iff : (items : List Json) → Json.CollapsedItems items → {requests : List Request} →
    (requests? Wire.resolve items = some requests ↔ Entries items requests)
  | [], _, _ => by
    constructor
    · intro h
      cases h
      exact .nil
    · rintro ⟨⟩
      rfl
  | item :: rest, hc, _ => by
    rw [requests?_cons_eq_some_iff]
    constructor
    · rintro ⟨request, others, hr, ho, rfl⟩
      exact .cons ((entry_iff item hc.1).1 hr) ((entries_iff rest hc.2).1 ho)
    · intro h
      cases h with
      | cons hentry hrest =>
        exact ⟨_, _, (entry_iff item hc.1).2 hentry, (entries_iff rest hc.2).2 hrest, rfl⟩
theorem entry_iff : (json : Json) → json.Collapsed → {request : Request} →
    (request? Wire.resolve json = some request ↔ Entry json request)
  | .object members, hc, _ => request?_object_eq_some_iff hc fun member hm =>
    (members_iff members hc.2 member hm).2
  | .array items, hc, _ => request?_array_eq_some_iff hc (nested_iff_of_mem items hc)
  | .null, _, _ | .bool _, _, _ | .number _, _, _ | .string _, _, _ => ⟨nofun, nofun⟩
theorem nested_iff_of_mem : (items : List Json) → Json.CollapsedItems items → ∀ item ∈ items,
    ∀ selectors, nested? Wire.resolve item = some selectors ↔ Nested (some item) selectors
  | [], _, _, hm => nomatch hm
  | json :: rest, hc, item, hm => by
    cases hm with
    | head => exact fun _ => nested_iff json hc.1
    | tail _ hm => exact nested_iff_of_mem rest hc.2 item hm
theorem nested_iff : (json : Json) → json.Collapsed → {selectors : Option (List Selector)} →
    (nested? Wire.resolve json = some selectors ↔ Nested (some json) selectors)
  | .null, _, _ => by
    constructor
    · intro h
      cases h
      exact .null
    · rintro ⟨⟩
      rfl
  | .array items, hc, selectors => by
    simp only [nested?, Option.bind_eq_bind, Option.bind_eq_some_iff, Option.map_eq_some_iff,
      Outcome.toOption_eq_some_iff]
    constructor
    · rintro ⟨wires, hw, found, hr, rfl⟩
      exact .list ((items_iff items hc).1 ⟨wires, hw, hr⟩)
    · intro h
      cases h with
      | list hitems =>
        obtain ⟨wires, hw, hr⟩ := (items_iff items hc).2 hitems
        exact ⟨wires, hw, _, hr, rfl⟩
  | .bool _, _, _ | .number _, _, _ | .string _, _, _ | .object _, _, _ => ⟨nofun, nofun⟩
end

theorem isBlank_path {text : String} (h : text ≠ "") : (Selector.path ⟨text⟩).isBlank = false := by
  simp [isBlank, Path.isEmpty, Path.components, h, Text.split_ne_nil]

theorem unblank_make {key : Key} {selectors : Option (List Selector)}
    (h : ∀ found ∈ selectors, AllUnblank found) : (Request.make key selectors).Unblank := by
  cases selectors with
  | none => trivial
  | some found => exact h found rfl

mutual
theorem Grammar.Item.unblank {json : Json} {selector : Option Selector} : Item json selector →
    ∀ found ∈ selector, found.Unblank
  | .emptyText, _, hf | .emptyObject, _, hf => nomatch hf
  | .path htext, _, hf => Option.some.inj hf ▸ isBlank_path htext
  | .keys hentries, _, hf => Option.some.inj hf ▸ hentries.unblank
theorem Grammar.Items.unblank {items : List Json} {selectors : List Selector} : Items items selectors →
    AllUnblank selectors
  | .nil => trivial
  | @Items.cons _ _ none _ _ hrest => hrest.unblank
  | @Items.cons _ _ (some _) _ hitem hrest => ⟨hitem.unblank _ rfl, hrest.unblank⟩
theorem Grammar.Entry.unblank {json : Json} {request : Request} : Entry json request → request.Unblank
  | .object _ _ hn => unblank_make hn.unblank
  | .list hn => unblank_make hn.unblank
theorem Grammar.Entries.unblank {items : List Json} {requests : List Request} :
    Entries items requests → Request.AllUnblank requests
  | .nil => trivial
  | .cons hentry hrest => ⟨hentry.unblank, hrest.unblank⟩
theorem Grammar.Nested.unblank {json : Option Json} {selectors : Option (List Selector)} :
    Nested json selectors → ∀ found ∈ selectors, AllUnblank found
  | .absent, _, hf | .null, _, hf => nomatch hf
  | .list hitems, _, hf => Option.some.inj hf ▸ hitems.unblank
end

/-- A document is read as the selectors that the grammar finds in it, and refused where it finds none. No
selector that was read is blank, at any depth. -/
theorem ofJson_eq_ok_iff_items (json : Json) (h : json.Collapsed) (selectors : List Selector) :
    (ofJson json = .ok selectors ↔ ∃ items, json = .array items ∧ Items items selectors) ∧
      (ofJson json = .ok selectors → AllUnblank selectors) := by
  have hiff : ofJson json = .ok selectors ↔ ∃ items, json = .array items ∧ Items items selectors := by
    rw [ofJson, ofJsonBy, Outcome.bind_eq_ok_iff]
    cases json with
    | array items =>
      simp only [readWireList, readWires_eq_ok_iff, items_iff items h, Json.array.injEq,
        exists_eq_left']
    | _ => simp [readWireList]
  refine ⟨hiff, fun hread => ?_⟩
  obtain ⟨items, -, hitems⟩ := hiff.1 hread
  exact hitems.unblank

/-- Blanks go at both depths, an empty name stays, and so does a list that had only blanks. -/
theorem ofJson_eq_ok_iff_items_blanks :
    let document : Json := .array [.string "", .object [("", .array [.object [("key", .string "x")]])],
      .object [], .object [("ledger", .array [
        .object [("dataFields", .array [.string "", .object []]),
          ("key", .object [("b", .bool true), ("a", .string "1")])],
        .array [.bool true], .array [.string "k", .null],
        .array [.string "k", .array [.object [], .string "p.q"]]])]]
    let selectors : List Selector := [.keys "" [.whole (.string "x")],
      .keys "ledger" [.within (.composite [("b", .bool true), ("a", .string "1")]) [],
        .whole (.bool true), .whole (.string "k"), .within (.string "k") [.path ⟨"p.q"⟩]]]
    document.Collapsed ∧ (∃ items, document = .array items ∧ Items items selectors) ∧
      AllUnblank selectors := by
  intro document selectors
  have hc : document.Collapsed := by
    simp [document, Json.Collapsed, Json.CollapsedItems, Json.CollapsedMembers, Table.Distinct, Table.keys]
  have hread : ofJson document = .ok selectors := rfl
  obtain ⟨hiff, hunblank⟩ := ofJson_eq_ok_iff_items document hc selectors
  exact ⟨hc, hiff.1 hread, hunblank hread⟩

end Selector

end StorageQuery
