import StorageQuery.Proofs.Selector.Grammar
import StorageQuery.Proofs.Table.Run
set_option autoImplicit false

namespace StorageQuery

mutual
/-- The selector, going on without blank ones. -/
def Selector.withoutBlanks : Selector → Selector
  | .path path => .path path
  | .keys name requests => .keys name (Request.withoutBlanks requests)
/-- The selectors but the blank ones, at every depth. A list of blanks alone becomes empty, and stays. -/
def Selector.dropBlanks : List Selector → List Selector
  | [] => []
  | selector :: rest =>
    if selector.isBlank then Selector.dropBlanks rest
    else selector.withoutBlanks :: Selector.dropBlanks rest
def Request.withoutBlank : Request → Request
  | .whole key => .whole key
  | .within key selectors => .within key (Selector.dropBlanks selectors)
def Request.withoutBlanks : List Request → List Request
  | [] => []
  | request :: rest => request.withoutBlank :: Request.withoutBlanks rest
end

@[simp] theorem Request.length_withoutBlanks (requests : List Request) :
    (withoutBlanks requests).length = requests.length := by
  induction requests with
  | nil => rfl
  | cons request rest ih => rw [withoutBlanks, List.length_cons, ih, List.length_cons]

theorem Request.withoutBlanks_append (requests others : List Request) :
    withoutBlanks (requests ++ others) = withoutBlanks requests ++ withoutBlanks others := by
  induction requests with
  | nil => rfl
  | cons request rest ih => rw [List.cons_append, withoutBlanks, ih, withoutBlanks, List.cons_append]

theorem Request.key_withoutBlank (request : Request) : request.withoutBlank.key = request.key := by
  cases request <;> rfl

theorem Request.make_withoutBlank (key : Key) (selectors : Option (List Selector)) :
    (make key selectors).withoutBlank = make key (selectors.map Selector.dropBlanks) := by
  cases selectors <;> rfl

namespace Selector

theorem isBlank_withoutBlanks (selector : Selector) : selector.withoutBlanks.isBlank = selector.isBlank := by
  cases selector <;> rfl

theorem name_withoutBlanks (selector : Selector) : selector.withoutBlanks.name = selector.name := by
  cases selector <;> rfl

theorem dropBlanks_append (selectors others : List Selector) :
    dropBlanks (selectors ++ others) = dropBlanks selectors ++ dropBlanks others := by
  induction selectors with
  | nil => rfl
  | cons selector rest ih =>
    rw [List.cons_append, dropBlanks, dropBlanks, ih]
    split <;> rfl

theorem length_dropBlanks_le (selectors : List Selector) :
    (dropBlanks selectors).length ≤ selectors.length := by
  induction selectors with
  | nil => exact Nat.le_refl _
  | cons selector rest ih =>
    rw [dropBlanks]
    split
    · exact Nat.le_succ_of_le ih
    · exact Nat.succ_le_succ ih

theorem dropBlanks_insert {blank : Selector} (h : blank.isBlank = true) (before after : List Selector) :
    dropBlanks (before ++ blank :: after) = dropBlanks (before ++ after) := by
  rw [dropBlanks_append, dropBlanks_append, dropBlanks, if_pos h]

/-- One list is the other with one more blank selector, which may stand in any of the lists within it. -/
inductive BlankInserted : List Selector → List Selector → Prop where
  | here {blank : Selector} (before after : List Selector) : blank.isBlank = true →
    BlankInserted (before ++ after) (before ++ blank :: after)
  | within {selectors others : List Selector} (before after : List Selector) (name : String)
    (first last : List Request) (key : Key) : BlankInserted selectors others →
    BlankInserted (before ++ .keys name (first ++ .within key selectors :: last) :: after)
      (before ++ .keys name (first ++ .within key others :: last) :: after)

theorem dropBlanks_of_inserted {selectors others : List Selector} (h : BlankInserted selectors others) :
    dropBlanks selectors = dropBlanks others := by
  induction h with
  | here before after hblank => exact (dropBlanks_insert hblank before after).symm
  | @within selectors others before after name first last key _ ih =>
    have hrequests : Request.withoutBlanks (first ++ .within key selectors :: last) =
        Request.withoutBlanks (first ++ .within key others :: last) := by
      rw [Request.withoutBlanks_append, Request.withoutBlanks_append, Request.withoutBlanks,
        Request.withoutBlanks, Request.withoutBlank, Request.withoutBlank, ih]
    rw [dropBlanks_append, dropBlanks_append, dropBlanks, dropBlanks, withoutBlanks, withoutBlanks, hrequests]
    rfl

def Wire.withoutBlanks : Wire → Wire
  | .path text => .path text
  | .fields named => .fields (named.map fun (name, requests) => (name, Request.withoutBlanks requests))

def Draft.withoutBlanks (draft : Draft) : Draft :=
  { draft with nested := draft.nested.map (·.map dropBlanks) }

/-- The selector of a wire form. The empty text is the empty path. -/
def Wire.keep : Wire → Except ShapeFault (Option Selector)
  | .path text => .ok (some (ofText text))
  | .fields named => (Wire.fields named).resolve

/-- The selectors of a document, with an empty path for each empty text. -/
def ofJsonKeeping (json : Json) : Except ShapeFault (List Selector) := ofJsonBy Wire.keep json

theorem Draft.finish_withoutBlanks (draft : Draft) :
    draft.withoutBlanks.finish = draft.finish.map Request.withoutBlank := by
  obtain ⟨key, nested⟩ := draft
  cases key with
  | none => rfl
  | some key =>
    cases nested with
    | none => rfl
    | some selectors => exact congrArg some (Request.make_withoutBlank key selectors).symm

theorem Wire.resolve_withoutBlanks (wire : Wire) :
    wire.withoutBlanks.resolve.map Option.toList = wire.keep.map fun kept => dropBlanks kept.toList := by
  match wire with
  | .path text =>
    by_cases htext : text = ""
    · subst htext
      rfl
    · have hkept : dropBlanks [ofText text] = [ofText text] := if_neg (by simp [ofText, isBlank_path htext])
      simp [withoutBlanks, resolve, keep, Except.map, htext, hkept]
  | .fields [] => rfl
  | .fields [_] => rfl
  | .fields (_ :: _ :: _) => simp [withoutBlanks, resolve, keep, Except.map]

theorem Wire.resolveAll_cons (resolve : Wire → Except ShapeFault (Option Selector)) (wire : Wire)
    (rest : List Wire) :
    resolveAll resolve (wire :: rest) =
      match (resolve wire).map Option.toList with
      | .ok selectors => (resolveAll resolve rest).map (selectors ++ ·)
      | .error e => .error e := by
  rw [resolveAll]
  cases resolve wire <;> cases resolveAll resolve rest <;> rfl

theorem Wire.resolveAll_withoutBlanks (wires : List Wire) :
    resolveAll resolve (wires.map withoutBlanks) = (resolveAll keep wires).map dropBlanks := by
  induction wires with
  | nil => rfl
  | cons wire rest ih =>
    rw [List.map_cons, resolveAll_cons, resolveAll_cons, resolve_withoutBlanks, ih]
    cases wire.keep with
    | error e => rfl
    | ok selector =>
      cases resolveAll keep rest with
      | error e => rfl
      | ok selectors => simp only [Except.map, dropBlanks_append]

/-! What is read without the blanks is what is read with them, less the blanks. -/

mutual
theorem wire?_eq : (json : Json) → wire? Wire.resolve json = (wire? Wire.keep json).map Wire.withoutBlanks
  | .object members => by
    rw [wire?, wire?, fields?_eq members, Option.map_map, Option.map_map]
    refine congrFun (congrArg Option.map (funext fun named => ?_)) _
    exact congrArg Wire.fields (Table.ofList_map_values _ Request.withoutBlanks named)
  | .string _ | .null | .bool _ | .number _ | .array _ => rfl
theorem fields?_eq : (members : List (String × Json)) →
    fields? Wire.resolve members = (fields? Wire.keep members).map
      (·.map fun (name, requests) => (name, Request.withoutBlanks requests))
  | [] => rfl
  | (name, json) :: rest => by
    rw [fields?, fields?, requestList?_eq json, fields?_eq rest]
    cases requestList? Wire.keep json <;> cases fields? Wire.keep rest <;> rfl
theorem requestList?_eq : (json : Json) →
    requestList? Wire.resolve json = (requestList? Wire.keep json).map Request.withoutBlanks
  | .array items => requests?_eq items
  | .object _ | .string _ | .null | .bool _ | .number _ => rfl
theorem requests?_eq : (items : List Json) →
    requests? Wire.resolve items = (requests? Wire.keep items).map Request.withoutBlanks
  | [] => rfl
  | item :: rest => by
    rw [requests?, requests?, request?_eq item, requests?_eq rest]
    cases request? Wire.keep item <;> cases requests? Wire.keep rest <;> rfl
theorem request?_eq : (json : Json) →
    request? Wire.resolve json = (request? Wire.keep json).map Request.withoutBlank
  | .object members => by
    rw [request?, request?, draft?_eq members]
    cases draft? Wire.keep members with
    | none => rfl
    | some draft => exact Draft.finish_withoutBlanks draft
  | .array [key] => by
    rw [request?, request?]
    cases Key.decode? key <;> rfl
  | .array [key, nested] => by
    rw [request?, request?, nested?_eq nested]
    cases Key.decode? key with
    | none => rfl
    | some key =>
      cases nested? Wire.keep nested with
      | none => rfl
      | some selectors => exact congrArg some (Request.make_withoutBlank key selectors).symm
  | .array [] | .array (_ :: _ :: _ :: _) => rfl
  | .string _ | .null | .bool _ | .number _ => rfl
theorem draft?_eq : (members : List (String × Json)) →
    draft? Wire.resolve members = (draft? Wire.keep members).map Draft.withoutBlanks
  | [] => rfl
  | (name, json) :: rest => by
    rw [draft?, draft?, draft?_eq rest, nested?_eq json]
    cases draft? Wire.keep rest with
    | none => rfl
    | some draft =>
      have hkey : draft.withoutBlanks.key = draft.key := rfl
      have hnested : draft.withoutBlanks.nested.isNone = draft.nested.isNone := Option.isNone_map
      simp only [Option.map_some, Option.bind_eq_bind, Option.bind_some, hkey, hnested]
      split
      · cases Key.decode? json <;> rfl
      · split
        · cases nested? Wire.keep json <;> rfl
        · rfl
theorem nested?_eq : (json : Json) →
    nested? Wire.resolve json = (nested? Wire.keep json).map (·.map dropBlanks)
  | .array items => by
    rw [nested?, nested?, wires?_eq items]
    cases wires? Wire.keep items with
    | none => rfl
    | some wires =>
      simp only [Option.map_some, Option.bind_eq_bind, Option.bind_some, Wire.resolveAll_withoutBlanks]
      cases Wire.resolveAll Wire.keep wires <;> rfl
  | .null => rfl
  | .object _ | .string _ | .bool _ | .number _ => rfl
theorem wires?_eq : (items : List Json) →
    wires? Wire.resolve items = (wires? Wire.keep items).map (·.map Wire.withoutBlanks)
  | [] => rfl
  | item :: rest => by
    rw [wires?, wires?, wire?_eq item, wires?_eq rest]
    cases wire? Wire.keep item <;> cases wires? Wire.keep rest <;> rfl
end

theorem readWires_eq (items : List Json) :
    readWires Wire.resolve items = (readWires Wire.keep items).map (·.map Wire.withoutBlanks) := by
  induction items with
  | nil => rfl
  | cons item rest ih =>
    rw [readWires, readWires, wire?_eq item, ih]
    cases wire? Wire.keep item with
    | none => rfl
    | some wire => cases readWires Wire.keep rest <;> rfl

theorem ofJson_eq_dropBlanks (json : Json) : ofJson json = (ofJsonKeeping json).map dropBlanks := by
  cases json with
  | array items =>
    rw [ofJson, ofJsonKeeping, ofJsonBy, ofJsonBy, readWireList, readWireList, readWires_eq]
    cases readWires Wire.keep items with
    | error e => rfl
    | ok wires => exact Wire.resolveAll_withoutBlanks wires
  | _ => rfl

end Selector

end StorageQuery
