import StorageQuery.Proofs.Json.Reading
import StorageQuery.Proofs.Json.RoundTrip
import StorageQuery.Proofs.Json.Writing
import StorageQuery.Proofs.Selector.Grammar
import StorageQuery.Proofs.Table.Paired
/-!
Selectors read from a text and from a document. A text shows members that are repeated, and a document has each
name once. What is read from a tree with repeated members is also read from the document that is made of it;
if nothing is repeated, the converse holds as well.
-/

set_option autoImplicit false

namespace StorageQuery

theorem Json.keys_collapseMembers (members : List (String × Json)) :
    Table.keys (collapseMembers members) = Table.keys members := by
  induction members with
  | nil => rfl
  | cons member rest ih => simpa [collapseMembers, Table.keys] using ih

theorem Json.unrepeated_of_spells {text : String} {json : Json} (h : Spells text json) (hi : json.Integral)
    (hc : json.Collapsed) : Unrepeated text := by
  intro tree rest hfirst
  have hread : Reader.value Reader.depthLimit (tokens text.toList) = .ok (tree, rest) :=
    Outcome.mapError_eq_ok_iff.2 hfirst
  rw [Reader.value_of_spells h hi] at hread
  split at hread
  · cases hread
    exact hc
  · cases hread

namespace Key

/-- What is read from an object stands in the places of its members. -/
theorem ofMembers?_eq_some_iff {members : List (String × Json)} {fields : List (String × Key)} :
    ofMembers? members = some fields ↔
      Table.Alongside (fun json key => ofJson? json = some key) members fields := by
  induction members generalizing fields with
  | nil => simp [ofMembers?, eq_comm]
  | cons member rest ih =>
    obtain ⟨name, json⟩ := member
    simp only [ofMembers?_cons_eq_some_iff, Table.alongside_cons_iff, ih]

mutual
theorem ofJson?_collapse : (json : Json) → {key : Key} → ofJson? json = some key →
    ofJson? json.collapse = some key
  | .null, _, h | .array _, _, h => nomatch h
  | .bool _, _, h | .number _, _, h | .string _, _, h => h
  | .object members, _, h => by
    obtain ⟨fields, hfields, rfl⟩ := Option.map_eq_some_iff.1 h
    have hmembers := ofMembers?_eq_some_iff.1 (ofMembers?_collapseMembers members hfields)
    rw [Json.collapse, ofJson?, ofMembers?_eq_some_iff.2 (hmembers.ofList (· == ·)), Option.map_some,
      Table.ofList_of_distinct (Table.distinct_ofList _ fields)]
theorem ofMembers?_collapseMembers : (members : List (String × Json)) → {fields : List (String × Key)} →
    ofMembers? members = some fields → ofMembers? (Json.collapseMembers members) = some fields
  | [], _, h => h
  | (_, json) :: rest, _, h => by
    obtain ⟨key, others, hkey, hothers, rfl⟩ := ofMembers?_cons_eq_some_iff.1 h
    exact ofMembers?_cons_eq_some_iff.2
      ⟨key, others, ofJson?_collapse json hkey, ofMembers?_collapseMembers rest hothers, rfl⟩
end

theorem decode?_collapse {json : Json} {key : Key} (h : decode? json = some key) :
    decode? json.collapse = some key := by
  rw [decode?_eq_ofJson?] at h ⊢
  exact ofJson?_collapse json h

end Key

namespace Selector

section
variable {resolve : Wire → Except ShapeFault (Option Selector)}

theorem draft?_cons_eq_some_iff {name : String} {json : Json} {rest : List (String × Json)} {draft : Draft} :
    draft? resolve ((name, json) :: rest) = some draft ↔
      ∃ before, draft? resolve rest = some before ∧
        ((name = "key" ∧ before.key = none ∧
            ∃ key, Key.decode? json = some key ∧ draft = { before with key := some key }) ∨
          (name = "dataFields" ∧ before.nested = none ∧
            ∃ nested, nested? resolve json = some nested ∧ draft = { before with nested := some nested })) := by
  rw [draft?]
  cases draft? resolve rest with
  | none => simp
  | some before =>
    obtain ⟨key, nested⟩ := before
    by_cases hkey : name = "key"
    · subst hkey
      cases key <;> cases Key.decode? json <;> simp [eq_comm (a := draft)]
    by_cases hnested : name = "dataFields"
    · subst hnested
      cases nested <;> cases nested? resolve json <;> simp [eq_comm (a := draft)]
    · simp [hkey, hnested]

theorem distinct_of_draft? {members : List (String × Json)} {draft : Draft} (h : draft? resolve members = some draft) :
    Table.Distinct (· == ·) members ∧
      ∀ name ∈ Table.keys members,
        (name = "key" ∧ draft.key ≠ none) ∨ (name = "dataFields" ∧ draft.nested ≠ none) := by
  induction members generalizing draft with
  | nil => exact ⟨.nil, List.forall_mem_nil _⟩
  | cons member rest ih =>
    obtain ⟨name, json⟩ := member
    obtain ⟨before, hbefore, hmember⟩ := draft?_cons_eq_some_iff.1 h
    obtain ⟨hdistinct, hnames⟩ := ih hbefore
    rcases hmember with ⟨rfl, hnone, key, -, rfl⟩ | ⟨rfl, hnone, nested, -, rfl⟩
    · refine ⟨List.pairwise_cons.2 ⟨fun other hother => ?_, hdistinct⟩, List.forall_mem_cons.2
        ⟨.inl ⟨rfl, nofun⟩, fun other hother => (hnames other hother).imp (fun h => ⟨h.1, nofun⟩) id⟩⟩
      rcases hnames other hother with ⟨-, hkey⟩ | ⟨rfl, -⟩
      · exact absurd hnone hkey
      · exact beq_eq_false_iff_ne.2 (by decide : "key" ≠ "dataFields")
    · refine ⟨List.pairwise_cons.2 ⟨fun other hother => ?_, hdistinct⟩, List.forall_mem_cons.2
        ⟨.inr ⟨rfl, nofun⟩, fun other hother => (hnames other hother).imp id fun h => ⟨h.1, nofun⟩⟩⟩
      rcases hnames other hother with ⟨rfl, -⟩ | ⟨-, hnested⟩
      · exact beq_eq_false_iff_ne.2 (by decide : "dataFields" ≠ "key")
      · exact absurd hnone hnested

theorem fields?_eq_some_iff {members : List (String × Json)} {named : List (String × List Request)} :
    fields? resolve members = some named ↔
      Table.Alongside (fun json requests => requestList? resolve json = some requests) members named := by
  induction members generalizing named with
  | nil => simp [fields?, eq_comm]
  | cons member rest ih =>
    obtain ⟨name, json⟩ := member
    simp only [fields?_cons_eq_some_iff, Table.alongside_cons_iff, ih]

mutual
theorem wire?_collapse : (json : Json) → {wire : Wire} → wire? resolve json = some wire →
    wire? resolve json.collapse = some wire
  | .null, _, h | .bool _, _, h | .number _, _, h | .array _, _, h => nomatch h
  | .string _, _, h => h
  | .object members, _, h => by
    obtain ⟨named, hnamed, rfl⟩ := Option.map_eq_some_iff.1 h
    have hmembers := fields?_eq_some_iff.1 (fields?_collapse members hnamed)
    rw [Json.collapse, wire?, fields?_eq_some_iff.2 (hmembers.ofList (· == ·)), Option.map_some,
      Table.ofList_of_distinct (Table.distinct_ofList _ named)]
theorem fields?_collapse : (members : List (String × Json)) → {named : List (String × List Request)} →
    fields? resolve members = some named → fields? resolve (Json.collapseMembers members) = some named
  | [], _, h => h
  | (_, json) :: rest, _, h => by
    obtain ⟨requests, others, hrequests, hothers, rfl⟩ := fields?_cons_eq_some_iff.1 h
    exact fields?_cons_eq_some_iff.2
      ⟨requests, others, requestList?_collapse json hrequests, fields?_collapse rest hothers, rfl⟩
theorem requestList?_collapse : (json : Json) → {requests : List Request} →
    requestList? resolve json = some requests → requestList? resolve json.collapse = some requests
  | .array items, _, h => requests?_collapse items h
  | .null, _, h | .bool _, _, h | .number _, _, h | .string _, _, h | .object _, _, h => nomatch h
theorem requests?_collapse : (items : List Json) → {requests : List Request} →
    requests? resolve items = some requests → requests? resolve (Json.collapseItems items) = some requests
  | [], _, h => h
  | item :: rest, _, h => by
    obtain ⟨request, others, hrequest, hothers, rfl⟩ := requests?_cons_eq_some_iff.1 h
    exact requests?_cons_eq_some_iff.2
      ⟨request, others, request?_collapse item hrequest, requests?_collapse rest hothers, rfl⟩
theorem request?_collapse : (json : Json) → {request : Request} → request? resolve json = some request →
    request? resolve json.collapse = some request
  | .object members, _, h => by
    obtain ⟨draft, hdraft, hfinish⟩ := Option.bind_eq_some_iff.1 h
    -- a draft is made of different members, and so nothing is left out
    have hdistinct : Table.Distinct (· == ·) (Json.collapseMembers members) := by
      rw [Table.Distinct, Json.keys_collapseMembers]
      exact (distinct_of_draft? hdraft).1
    rw [Json.collapse, Table.ofList_of_distinct hdistinct, request?, draft?_collapse members hdraft]
    exact hfinish
  | .array [key], _, h => by
    obtain ⟨found, hfound, rfl⟩ := Option.map_eq_some_iff.1 h
    exact Option.map_eq_some_iff.2 ⟨found, Key.decode?_collapse hfound, rfl⟩
  | .array [key, nested], _, h => by
    simp only [request?, Option.bind_eq_bind, Option.bind_eq_some_iff] at h
    obtain ⟨found, hfound, selectors, hselectors, hmake⟩ := h
    simp only [Json.collapse, Json.collapseItems, request?, Option.bind_eq_bind, Option.bind_eq_some_iff]
    exact ⟨found, Key.decode?_collapse hfound, selectors, nested?_collapse nested hselectors, hmake⟩
  | .array [], _, h | .array (_ :: _ :: _ :: _), _, h => nomatch h
  | .null, _, h | .bool _, _, h | .number _, _, h | .string _, _, h => nomatch h
theorem draft?_collapse : (members : List (String × Json)) → {draft : Draft} → draft? resolve members = some draft →
    draft? resolve (Json.collapseMembers members) = some draft
  | [], _, h => h
  | (_, json) :: rest, _, h => by
    obtain ⟨before, hbefore, hmember⟩ := draft?_cons_eq_some_iff.1 h
    refine draft?_cons_eq_some_iff.2 ⟨before, draft?_collapse rest hbefore, ?_⟩
    rcases hmember with ⟨hname, hnone, key, hkey, hdraft⟩ | ⟨hname, hnone, nested, hnested, hdraft⟩
    · exact .inl ⟨hname, hnone, key, Key.decode?_collapse hkey, hdraft⟩
    · exact .inr ⟨hname, hnone, nested, nested?_collapse json hnested, hdraft⟩
theorem nested?_collapse : (json : Json) → {selectors : Option (List Selector)} →
    nested? resolve json = some selectors → nested? resolve json.collapse = some selectors
  | .null, _, h => h
  | .array items, _, h => by
    obtain ⟨wires, hwires, hresolve⟩ := Option.bind_eq_some_iff.1 h
    exact Option.bind_eq_some_iff.2 ⟨wires, wires?_collapse items hwires, hresolve⟩
  | .bool _, _, h | .number _, _, h | .string _, _, h | .object _, _, h => nomatch h
theorem wires?_collapse : (items : List Json) → {wires : List Wire} → wires? resolve items = some wires →
    wires? resolve (Json.collapseItems items) = some wires
  | [], _, h => h
  | item :: rest, _, h => by
    obtain ⟨wire, others, hwire, hothers, rfl⟩ := wires?_cons_eq_some_iff.1 h
    exact wires?_cons_eq_some_iff.2
      ⟨wire, others, wire?_collapse item hwire, wires?_collapse rest hothers, rfl⟩
end

end

theorem ofJson_eq_ok_iff_wires {json : Json} {selectors : List Selector} :
    ofJson json = .ok selectors ↔
      ∃ items wires, json = .array items ∧ wires? Wire.resolve items = some wires ∧
        Wire.resolveAll Wire.resolve wires = .ok selectors := by
  rw [ofJson, ofJsonBy, Outcome.bind_eq_ok_iff]
  cases json with
  | array items => simp [readWireList, readWires_eq_ok_iff]
  | _ => simp [readWireList]

/-- A tree that is read is read alike once each name has one member. -/
theorem ofJson_collapse {tree : Json} {selectors : List Selector} (h : ofJson tree = .ok selectors) :
    ofJson tree.collapse = .ok selectors := by
  obtain ⟨items, wires, rfl, hwires, hresolve⟩ := ofJson_eq_ok_iff_wires.1 h
  exact ofJson_eq_ok_iff_wires.2 ⟨_, wires, rfl, wires?_collapse items hwires, hresolve⟩

theorem read_eq_ok_iff {text : String} {selectors : List Selector} :
    read text = .ok selectors ↔
      ∃ tree, Json.readFirst text = .ok (tree, []) ∧ ofJson tree = .ok selectors := by
  rw [read]
  cases Json.readFirst text with
  | error stop =>
    refine iff_of_false (fun h => ?_) nofun
    dsimp only at h
    split at h <;> cases h
  | ok result =>
    obtain ⟨tree, rest⟩ := result
    have htree : ofJson tree = readWireList Wire.resolve tree >>= Wire.resolveAll Wire.resolve := rfl
    dsimp only
    cases hwires : readWireList Wire.resolve tree with
    | error fault =>
      refine iff_of_false nofun ?_
      rintro ⟨_, hfirst, h⟩
      cases hfirst
      rw [htree, hwires] at h
      cases h
    | ok wires =>
      cases rest with
      | nil =>
        have hresolve : ofJson tree = Wire.resolveAll Wire.resolve wires := by rw [htree, hwires]; rfl
        simp [Outcome.mapError_eq_ok_iff, hresolve]
      | cons token rest => simp

/-- A text that repeats no member is read as selectors if and only if it is the text of a document and the
document is read as the same selectors. From the left to the right this holds of every text. -/
theorem read_agrees_with_ofJson (text : String) :
    (Json.Unrepeated text → ∀ selectors, read text = .ok selectors ↔
      ∃ json, Json.read text = .ok json ∧ ofJson json = .ok selectors) ∧
    ∀ selectors, read text = .ok selectors →
      ∃ json, Json.read text = .ok json ∧ ofJson json = .ok selectors := by
  have hforward (selectors : List Selector) (h : read text = .ok selectors) :
      ∃ json, Json.read text = .ok json ∧ ofJson json = .ok selectors := by
    obtain ⟨tree, hfirst, htree⟩ := read_eq_ok_iff.1 h
    exact ⟨tree.collapse, Json.read_eq_ok_iff.2 ⟨tree, hfirst, rfl⟩, ofJson_collapse htree⟩
  refine ⟨fun hunrepeated selectors => ⟨hforward selectors, ?_⟩, hforward⟩
  rintro ⟨json, hread, hjson⟩
  obtain ⟨tree, hfirst, rfl⟩ := Json.read_eq_ok_iff.1 hread
  rw [Json.collapse_of_collapsed tree (hunrepeated tree [] hfirst)] at hjson
  exact read_eq_ok_iff.2 ⟨tree, hfirst, hjson⟩

theorem read_agrees_with_ofJson_composite :
    let document : Json := .array [.string "", .object [("m", .array [.object
      [("key", .object [("b", .string "t"), ("a", .number (.integer 15 (by decide)))]),
        ("dataFields", .array [.string "x.y"])]])]]
    let selectors : List Selector := [.keys "m" [.within
      (.composite [("b", .string "t"), ("a", .number (.integer 15 (by decide)))]) [ofText "x.y"]]]
    Json.Unrepeated document.prettyText ∧ Json.read document.prettyText = .ok document ∧
      ofJson document = .ok selectors ∧ read document.prettyText = .ok selectors := by
  intro document selectors
  have hi : document.Integral := by simp [document]
  have hc : document.Collapsed := by
    simp [document, Json.Collapsed, Json.CollapsedItems, Json.CollapsedMembers, Table.Distinct, Table.keys]
  have hunrepeated := Json.unrepeated_of_spells document.spells_prettyText hi hc
  have hread := Json.read_of_spells_collapsed document.spells_prettyText hi hc (by decide)
  have hselectors : ofJson document = .ok selectors := rfl
  obtain ⟨hagrees, -⟩ := read_agrees_with_ofJson document.prettyText
  exact ⟨hunrepeated, hread, hselectors, (hagrees hunrepeated selectors).2 ⟨document, hread, hselectors⟩⟩

/-- A member that is repeated makes a difference: the tree is refused, the document that is made of it is not. -/
example :
    let one : Json := .number (.integer 1 (by decide))
    let tree : Json := .array [.object [("m", .array [.object [("key", one), ("key", one)]])]]
    (ofJson tree).toOption.isSome = false ∧ (ofJson tree.collapse).toOption.isSome = true := by
  decide

end Selector

end StorageQuery
