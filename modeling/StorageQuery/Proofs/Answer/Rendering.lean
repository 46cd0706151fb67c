import StorageQuery.Answer.Basic
import StorageQuery.Proofs.Json.RoundTrip
import StorageQuery.Proofs.Json.Squeeze
import StorageQuery.Proofs.Table.Run
set_option autoImplicit false

namespace StorageQuery

/-- Each name once, where it first stands, with the value that it has last. -/
def Table.merged {ν : Type} (entries : List (String × ν)) : List (String × ν) :=
  (keys entries).eraseDups.filterMap fun name =>
    ((entries.filter fun entry => entry.1 == name).getLast?).map fun entry => (name, entry.2)

theorem Table.ofList_eq_merged {ν : Type} (entries : List (String × ν)) :
    ofList (· == ·) entries = merged entries := by
  have htrue {t : List (String × ν)} : ∀ entry ∈ t, True := fun _ _ => trivial
  have hkeys : keys (ofList (· == ·) entries) = (keys entries).eraseDups := keys_ofList lawful_beq htrue
  have hfind (name : String) : find? (· == ·) name (ofList (· == ·) entries) =
      ((entries.filter fun entry => entry.1 == name).getLast?).map Prod.snd := find?_ofList lawful_beq htrue trivial
  rw [← filterMap_keys lawful_beq (distinct_ofList (· == ·) entries) htrue, hkeys]
  simp only [hfind, Option.map_map]
  rfl

example : Table.merged [("a", 1), ("b", 2), ("a", 3)] = [("a", 3), ("b", 2)] := by decide

namespace Json

mutual
def merged : Json → Json
  | .array items => .array (mergedItems items)
  | .object members => .object (Table.merged (mergedMembers members))
  | json => json
def mergedItems : List Json → List Json
  | [] => []
  | item :: rest => merged item :: mergedItems rest
def mergedMembers : List (String × Json) → List (String × Json)
  | [] => []
  | (name, value) :: rest => (name, merged value) :: mergedMembers rest
end

mutual
theorem collapse_eq_merged : (json : Json) → json.collapse = json.merged
  | .null | .bool _ | .number _ | .string _ => rfl
  | .array items => congrArg Json.array (collapseItems_eq_merged items)
  | .object members => by
    rw [collapse, merged, collapseMembers_eq_merged members, Table.ofList_eq_merged]
theorem collapseItems_eq_merged : (items : List Json) → collapseItems items = mergedItems items
  | [] => rfl
  | item :: rest => by
    rw [collapseItems, mergedItems, collapse_eq_merged item, collapseItems_eq_merged rest]
theorem collapseMembers_eq_merged : (members : List (String × Json)) →
    collapseMembers members = mergedMembers members
  | [] => rfl
  | (name, value) :: rest => by
    rw [collapseMembers, mergedMembers, collapse_eq_merged value, collapseMembers_eq_merged rest]
end

end Json

namespace Answer

theorem members_eq_map (answer : Answer) :
    members answer = answer.map fun (name, result) => (name, fieldTree result) := by
  induction answer with
  | nil => rfl
  | cons entry rest ih => exact congrArg ((entry.1, fieldTree entry.2) :: ·) ih

theorem rowTrees_eq_map (rows : List (Key × RowResult)) :
    rowTrees rows = rows.map fun (key, result) => .object [("key", key.toJson), rowMember result] := by
  induction rows with
  | nil => rfl
  | cons row rest ih => exact congrArg (.object [("key", row.1.toJson), rowMember row.2] :: ·) ih

/-- A level of an answer is the answer itself, or a level of what stands in one of its rows. -/
inductive Within (level : Answer) : Answer → Prop where
  | self : Within level level
  | row {inner whole : Answer} {name : String} {rows : List (Key × RowResult)} {key : Key} :
    (name, .rows rows) ∈ whole → (key, .nested inner) ∈ rows → Within level inner → Within level whole

theorem tree_within {level answer : Answer} (h : level.Within answer) : level.tree.Within answer.tree := by
  induction h with
  | self => exact .self level.tree
  | @row inner whole name rows key hfield hrow _ ih =>
    have hrows : fieldTree (.rows rows) ∈ whole.tree.parts := by
      rw [tree, Json.parts, members_eq_map, List.map_map]
      exact List.mem_map_of_mem hfield
    have hobject : Json.object [("key", key.toJson), ("value", inner.tree)] ∈ (fieldTree (.rows rows)).parts := by
      rw [fieldTree, Json.parts, rowTrees_eq_map]
      exact List.mem_map_of_mem hrow
    exact .part hrows (.part hobject (.part (.tail _ List.mem_cons_self) ih))

/-- Both texts spell the tree of the results, in which every level keeps all of its names, and differ in blanks
outside of strings alone. If all its numbers are integers, they are read as that tree, and so as the document,
unless it nests deeper than the reader goes. -/
theorem renderings_agree (answer : Answer) :
    answer.tree = .object (answer.map fun (name, result) => (name, fieldTree result)) ∧
    Json.Spells answer.text answer.tree ∧ Json.Spells answer.prettyText answer.tree ∧
    Json.squeeze .outside answer.prettyText.toList = answer.text.toList ∧
    Json.squeeze .outside answer.text.toList = answer.text.toList ∧
    (∀ level : Answer, level.Within answer →
      level.tree.Within answer.tree ∧ level.toJson = level.tree.merged ∧
      ∀ name, level.get? name = ((level.filter fun entry => entry.1 == name).head?).map Prod.snd) ∧
    (answer.tree.Integral → ∀ text ∈ [answer.text, answer.prettyText],
      (∀ limit, Reader.value limit (tokens text.toList) =
        if answer.tree.depth ≤ limit then .ok (answer.tree, []) else .error .tooDeep) ∧
      Json.read text =
        if answer.tree.depth ≤ Reader.depthLimit then .ok answer.toJson else .error (.text .tooDeep)) := by
  have htext : Json.Spells answer.text answer.tree := answer.tree.spells_text
  have hpretty : Json.Spells answer.prettyText answer.tree := answer.tree.spells_prettyText
  obtain ⟨hsqueezed, hcompact⟩ := Json.squeeze_texts answer.tree
  refine ⟨congrArg Json.object (members_eq_map answer), htext, hpretty, hsqueezed, hcompact,
    fun level hlevel => ⟨tree_within hlevel, Json.collapse_eq_merged level.tree,
      fun name => Table.find?_eq_head? (· == ·) name level⟩, fun hintegral text hm => ?_⟩
  have hspells : Json.Spells text answer.tree := by
    rcases List.mem_pair.1 hm with rfl | rfl
    · exact htext
    · exact hpretty
  exact ⟨Reader.value_of_spells hspells hintegral, Json.read_of_spells hspells hintegral⟩

/-- A name that is repeated at the top, and one that is repeated in the level within. -/
theorem renderings_agree_repeated :
    let one : Json := .number (.integer 1 (by decide))
    let two : Json := .number (.integer 2 (by decide))
    let inner : Answer := [("c", .value two), ("c", .missing .field)]
    let answer : Answer := [("a", .value one), ("b", .rows [(.string "k", .nested inner)]), ("a", .value two)]
    let document : Json :=
      .object [("a", two), ("b", .array [.object [("key", .string "k"),
        ("value", .object [("c", .object [("error", .string Missing.field.message)])])]])]
    Json.read answer.text = .ok document ∧ Json.read answer.prettyText = .ok document ∧
      answer.get? "a" = some (.value one) ∧ inner.get? "c" = some (.value two) := by
  intro one two inner answer document
  obtain ⟨-, -, -, -, -, hlevels, hread⟩ := renderings_agree answer
  obtain ⟨-, hdocument, hget⟩ := hlevels answer .self
  have hinner : inner.Within answer := .row (.tail _ List.mem_cons_self) List.mem_cons_self .self
  obtain ⟨-, -, hgetInner⟩ := hlevels inner hinner
  have hintegral : answer.tree.Integral := by
    simp [answer, inner, one, two, tree, members, fieldTree, rowTrees, rowMember, Key.toJson, reasonMember]
  have hdepth : answer.tree.depth ≤ Reader.depthLimit := by decide
  have hexplicit : answer.toJson = document := by
    rw [hdocument]
    rfl
  obtain ⟨-, htext⟩ := hread hintegral answer.text List.mem_cons_self
  obtain ⟨-, hpretty⟩ := hread hintegral answer.prettyText (.tail _ List.mem_cons_self)
  rw [if_pos hdepth, hexplicit] at htext hpretty
  exact ⟨htext, hpretty, hget "a", hgetInner "c"⟩

end Answer

end StorageQuery
