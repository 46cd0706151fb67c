import StorageQuery.Json.Reader
import StorageQuery.Proofs.Json.Lexing
/-!
Reading what is spelled. From the tokens of a document the reader makes that document again, with repeated
members in their places, provided that its containers nest no deeper than the reader goes.
-/

set_option autoImplicit false

namespace StorageQuery

namespace Json

mutual
def depth : Json → Nat
  | .array items => depthItems items + 1
  | .object members => depthMembers members + 1
  | _ => 0
def depthItems : List Json → Nat
  | [] => 0
  | item :: rest => max (depth item) (depthItems rest)
def depthMembers : List (String × Json) → Nat
  | [] => 0
  | (_, value) :: rest => max (depth value) (depthMembers rest)
end

theorem itemTokens_first {items : List Json} (h : items ≠ []) :
    ∃ token rest, itemTokens items = token :: rest ∧ token ≠ .closeArray := by
  have hvalue (json : Json) : ∃ token rest, json.tokenList = token :: rest ∧ token ≠ .closeArray := by
    cases json <;> exact ⟨_, _, rfl, Token.noConfusion⟩
  cases items with
  | nil => exact absurd rfl h
  | cons item others =>
    obtain ⟨token, rest, hfirst, hne⟩ := hvalue item
    cases others with
    | nil => exact ⟨token, rest, hfirst, hne⟩
    | cons next others =>
      refine ⟨token, rest ++ .comma :: itemTokens (next :: others), ?_, hne⟩
      rw [itemTokens_cons item (List.cons_ne_nil next others), hfirst, List.cons_append]

end Json

namespace Reader

variable {limit : Nat} {outer : List Frame} {token : Token} {tokens : List Token}

def resume (limit : Nat) (rest : List Token) : Progress → Except ReadFault (Json × List Token)
  | .more state => (run limit state rest).mapError Stop.fault
  | .done json => .ok (json, rest)

theorem resume_more (limit : Nat) (state : State) (token : Token) (rest : List Token) :
    resume limit (token :: rest) (.more state) = (step limit state token).bind (resume limit rest) := by
  rw [resume, run]
  cases step limit state token with
  | error fault => rfl
  | ok progress => cases progress <;> rfl

theorem resume_openArray : resume limit (.openArray :: tokens) (.more ⟨.value, outer⟩) =
    if outer.length < limit then resume limit tokens (.more ⟨.firstItem, outer⟩) else .error .tooDeep := by
  rw [resume_more]
  simp only [step, begin]
  split <;> rfl

theorem resume_openObject : resume limit (.openObject :: tokens) (.more ⟨.value, outer⟩) =
    if outer.length < limit then resume limit tokens (.more ⟨.firstName, outer⟩) else .error .tooDeep := by
  rw [resume_more]
  simp only [step, begin]
  split <;> rfl

theorem resume_firstItem (h : token ≠ .closeArray) :
    resume limit (token :: tokens) (.more ⟨.firstItem, outer⟩) =
      resume limit (token :: tokens) (.more ⟨.value, .items [] :: outer⟩) := by
  rw [resume_more, resume_more]
  cases token <;> first | rfl | exact absurd rfl h

theorem resume_nextItem (h : token ≠ .closeArray) (done : List Json) :
    resume limit (token :: tokens) (.more ⟨.nextItem done, outer⟩) =
      resume limit (token :: tokens) (.more ⟨.value, .items done :: outer⟩) := by
  rw [resume_more, resume_more]
  cases token <;> first | rfl | exact absurd rfl h

theorem resume_name (done : List (String × Json)) (name : String) :
    resume limit (.string name :: .colon :: tokens) (.more ⟨.nextName done, outer⟩) =
      resume limit tokens (.more ⟨.value, .members done name :: outer⟩) := by
  rw [resume_more]
  exact resume_more limit ⟨.afterName done name, outer⟩ .colon tokens

/-- Parts of a container one after the other: each of them must stay within the limit. -/
theorem both_within {α : Type} (level a b limit : Nat) (x y : α) :
    (if level + a ≤ limit then if level + b ≤ limit then x else y else y) =
      if level + max a b ≤ limit then x else y := by
  split_ifs <;> first | rfl | omega

mutual
/-- A value within some containers is read, and the reader goes on behind it, unless containers in it go
too deep. -/
theorem resume_value : (json : Json) → (outer : List Frame) → outer.length ≤ limit → (rest : List Token) →
    resume limit (json.tokenList ++ rest) (.more ⟨.value, outer⟩) =
      if outer.length + json.depth ≤ limit then resume limit rest (put json outer) else .error .tooDeep
  | .null, outer, h, rest => (resume_more limit _ .null rest).trans (if_pos h).symm
  | .bool b, outer, h, rest => (resume_more limit _ (.bool b) rest).trans (if_pos h).symm
  | .number n, outer, h, rest => (resume_more limit _ (.number n) rest).trans (if_pos h).symm
  | .string s, outer, h, rest => (resume_more limit _ (.string s) rest).trans (if_pos h).symm
  | .array items, outer, h, rest => by
    rw [Json.tokenList, List.cons_append, List.append_assoc, List.singleton_append, resume_openArray]
    by_cases hlimit : outer.length < limit
    · rw [if_pos hlimit, Json.depth, Nat.add_comm _ 1, ← Nat.add_assoc]
      cases items with
      | nil => exact (resume_more limit _ .closeArray rest).trans (if_pos hlimit).symm
      | cons item others =>
        obtain ⟨token, tokens, hfirst, hne⟩ := Json.itemTokens_first (List.cons_ne_nil item others)
        have hitems := resume_items (item :: others) (List.cons_ne_nil _ _) outer hlimit [] rest
        rw [hfirst, List.cons_append] at hitems ⊢
        rw [resume_firstItem hne]
        exact hitems
    · rw [if_neg hlimit, Json.depth, if_neg (by omega)]
  | .object members, outer, h, rest => by
    rw [Json.tokenList, List.cons_append, List.append_assoc, List.singleton_append, resume_openObject]
    by_cases hlimit : outer.length < limit
    · rw [if_pos hlimit, Json.depth, Nat.add_comm _ 1, ← Nat.add_assoc]
      cases members with
      | nil => exact (resume_more limit _ .closeObject rest).trans (if_pos hlimit).symm
      | cons member others =>
        have hmembers := resume_members (member :: others) (List.cons_ne_nil _ _) outer hlimit [] rest
        have hname : resume limit (Json.memberTokens (member :: others) ++ .closeObject :: rest)
            (.more ⟨.firstName, outer⟩) =
            resume limit (Json.memberTokens (member :: others) ++ .closeObject :: rest)
              (.more ⟨.nextName [], outer⟩) := by
          cases others <;> rfl
        rw [hname]
        exact hmembers
    · rw [if_neg hlimit, Json.depth, if_neg (by omega)]
theorem resume_items : (items : List Json) → items ≠ [] → (outer : List Frame) → outer.length < limit →
    (done : List Json) → (rest : List Token) →
    resume limit (Json.itemTokens items ++ .closeArray :: rest) (.more ⟨.value, .items done :: outer⟩) =
      if outer.length + 1 + Json.depthItems items ≤ limit then
        resume limit rest (put (.array (done.reverse ++ items)) outer)
      else .error .tooDeep
  | [], h, _, _, _, _ => absurd rfl h
  | [item], _, outer, h, done, rest => by
    have hitem := resume_value item (.items done :: outer) h (.closeArray :: rest)
    have hclose : resume limit (.closeArray :: rest) (put item (.items done :: outer)) =
        resume limit rest (put (.array (item :: done).reverse) outer) :=
      resume_more limit ⟨.afterItem (item :: done), outer⟩ .closeArray rest
    rw [hclose, List.reverse_cons] at hitem
    rw [Json.depthItems, Json.depthItems, Nat.max_zero]
    exact hitem
  | item :: next :: others, _, outer, h, done, rest => by
    have hitem := resume_value item (.items done :: outer) h
      (.comma :: (Json.itemTokens (next :: others) ++ .closeArray :: rest))
    have hothers := resume_items (next :: others) (List.cons_ne_nil _ _) outer h (item :: done) rest
    have hcomma : resume limit (.comma :: (Json.itemTokens (next :: others) ++ .closeArray :: rest))
        (put item (.items done :: outer)) =
        resume limit (Json.itemTokens (next :: others) ++ .closeArray :: rest)
          (.more ⟨.nextItem (item :: done), outer⟩) :=
      resume_more limit ⟨.afterItem (item :: done), outer⟩ .comma _
    obtain ⟨token, tokens, hfirst, hne⟩ := Json.itemTokens_first (List.cons_ne_nil next others)
    have hnext : resume limit (Json.itemTokens (next :: others) ++ .closeArray :: rest)
        (.more ⟨.nextItem (item :: done), outer⟩) =
        resume limit (Json.itemTokens (next :: others) ++ .closeArray :: rest)
          (.more ⟨.value, .items (item :: done) :: outer⟩) := by
      rw [hfirst]
      exact resume_nextItem hne (item :: done)
    rw [hcomma, hnext, hothers, List.reverse_cons, List.append_assoc, List.singleton_append] at hitem
    rw [Json.itemTokens_cons item (List.cons_ne_nil next others), List.append_assoc, List.cons_append, hitem, Json.depthItems]
    exact both_within _ _ _ _ _ _
theorem resume_members : (members : List (String × Json)) → members ≠ [] → (outer : List Frame) →
    outer.length < limit → (done : List (String × Json)) → (rest : List Token) →
    resume limit (Json.memberTokens members ++ .closeObject :: rest) (.more ⟨.nextName done, outer⟩) =
      if outer.length + 1 + Json.depthMembers members ≤ limit then
        resume limit rest (put (.object (done.reverse ++ members)) outer)
      else .error .tooDeep
  | [], h, _, _, _, _ => absurd rfl h
  | [(name, value)], _, outer, h, done, rest => by
    have hvalue := resume_value value (.members done name :: outer) h (.closeObject :: rest)
    have hclose : resume limit (.closeObject :: rest) (put value (.members done name :: outer)) =
        resume limit rest (put (.object ((name, value) :: done).reverse) outer) :=
      resume_more limit ⟨.afterMember ((name, value) :: done), outer⟩ .closeObject rest
    rw [hclose, List.reverse_cons] at hvalue
    rw [Json.depthMembers, Json.depthMembers, Nat.max_zero]
    exact (resume_name done name).trans hvalue
  | (name, value) :: next :: others, _, outer, h, done, rest => by
    have hvalue := resume_value value (.members done name :: outer) h
      (.comma :: (Json.memberTokens (next :: others) ++ .closeObject :: rest))
    have hothers := resume_members (next :: others) (List.cons_ne_nil _ _) outer h ((name, value) :: done) rest
    have hcomma : resume limit (.comma :: (Json.memberTokens (next :: others) ++ .closeObject :: rest))
        (put value (.members done name :: outer)) =
        resume limit (Json.memberTokens (next :: others) ++ .closeObject :: rest)
          (.more ⟨.nextName ((name, value) :: done), outer⟩) :=
      resume_more limit ⟨.afterMember ((name, value) :: done), outer⟩ .comma _
    rw [hcomma, hothers, List.reverse_cons, List.append_assoc, List.singleton_append] at hvalue
    rw [Json.memberTokens_cons name value (List.cons_ne_nil next others), List.cons_append, List.cons_append,
      resume_name, List.append_assoc, List.cons_append, hvalue, Json.depthMembers]
    exact both_within _ _ _ _ _ _
end

/-- A text that spells a document is read as that document, and nothing of it is left. -/
theorem value_of_spells {text : String} {json : Json} (h : Json.Spells text json) (hi : json.Integral)
    (limit : Nat) : value limit (StorageQuery.tokens text.toList) =
      if json.depth ≤ limit then .ok (json, []) else .error .tooDeep := by
  have hvalue := resume_value json [] (Nat.zero_le limit) []
  rw [List.append_nil, List.length_nil, Nat.zero_add] at hvalue
  rw [Json.tokens_of_spells h hi]
  exact hvalue

end Reader

theorem Json.Spells.unique {text : String} {json json' : Json} (h : Spells text json) (h' : Spells text json')
    (hi : json.Integral) (hi' : json'.Integral) : json = json' := by
  have hvalue := Reader.value_of_spells h hi (max json.depth json'.depth)
  rw [if_pos (Nat.le_max_left _ _), Reader.value_of_spells h' hi', if_pos (Nat.le_max_right _ _)] at hvalue
  exact (Prod.mk.inj (Except.ok.inj hvalue)).1.symm

mutual
theorem Json.collapse_of_collapsed : (json : Json) → json.Collapsed → json.collapse = json
  | .null, _ | .bool _, _ | .number _, _ | .string _, _ => rfl
  | .array items, h => congrArg Json.array (collapseItems_of_collapsed items h)
  | .object members, h => by
    rw [collapse, collapseMembers_of_collapsed members h.2, Table.ofList_of_distinct h.1]
theorem Json.collapseItems_of_collapsed : (items : List Json) → CollapsedItems items →
    collapseItems items = items
  | [], _ => rfl
  | item :: rest, h => by
    rw [collapseItems, collapse_of_collapsed item h.1, collapseItems_of_collapsed rest h.2]
theorem Json.collapseMembers_of_collapsed : (members : List (String × Json)) → CollapsedMembers members →
    collapseMembers members = members
  | [], _ => rfl
  | (name, value) :: rest, h => by
    rw [collapseMembers, collapse_of_collapsed value h.1, collapseMembers_of_collapsed rest h.2]
end

theorem Json.read_of_spells {text : String} {json : Json} (h : Spells text json) (hi : json.Integral) :
    read text = if json.depth ≤ Reader.depthLimit then .ok json.collapse else .error (.text .tooDeep) := by
  have hvalue := Reader.value_of_spells h hi Reader.depthLimit
  rw [read, readAs, readFirst]
  rw [Reader.value] at hvalue
  cases hrun : Reader.run Reader.depthLimit Reader.start (tokens text.toList) with
  | error stop =>
    rw [hrun] at hvalue
    split at hvalue
    · cases hvalue
    · rename_i hdepth
      rw [if_neg hdepth]
      exact congrArg (Except.error ∘ Fault.text) (Except.error.inj hvalue)
  | ok result =>
    rw [hrun] at hvalue
    split at hvalue
    · rename_i hdepth
      rw [if_pos hdepth]
      cases Except.ok.inj hvalue
      rfl
    · cases hvalue

theorem Json.read_of_spells_collapsed {text : String} {json : Json} (h : Spells text json)
    (hi : json.Integral) (hc : json.Collapsed) (hdepth : json.depth ≤ Reader.depthLimit) :
    read text = .ok json := by
  rw [read_of_spells h hi, if_pos hdepth, collapse_of_collapsed json hc]

end StorageQuery
