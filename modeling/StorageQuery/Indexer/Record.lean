import StorageQuery.Json.Outline
import StorageQuery.Json.Reader
import StorageQuery.Text.Utf8
/-!
Records of an indexer: an entry of a big map with a mark whether it is still there. Members of other
names are passed over. A record may also be a list of its members, the last ones left out.

A text is read member by member, so the first fault in it decides, be it one of the text or of the
shape.
-/

set_option autoImplicit false

namespace StorageQuery.Indexer

structure Record where
  key : Json := .null
  value : Json := .null
  active : Bool := true

namespace Record

structure Draft where
  key : Option Json := none
  value : Option Json := none
  active : Option Bool := none

def Draft.finish (draft : Draft) : Record where
  key := draft.key.getD .null
  value := draft.value.getD .null
  active := draft.active.getD true

def names : List String := ["key", "value", "active"]

def notAMark (json : Json) : ShapeFault := .wrongType json "a boolean"

def notARecord (json : Json) : ShapeFault := .wrongType json "struct BigMapKey"

def Draft.admits (draft : Draft) (name : String) : Except ShapeFault Unit :=
  if (name = "key" ∧ draft.key.isSome) ∨ (name = "value" ∧ draft.value.isSome) ∨
      (name = "active" ∧ draft.active.isSome) then
    .error (.repeatedField name)
  else .ok ()

def Draft.put (draft : Draft) (name : String) (json : Json) : Except ShapeFault Draft := do
  draft.admits name
  if name = "key" then return { draft with key := json.collapse }
  else if name = "value" then return { draft with value := json.collapse }
  else if name = "active" then
    match json with
    | .bool active => return { draft with active }
    | json => .error (notAMark json)
  else return draft

def Draft.putAll (draft : Draft) : List (String × Json) → Except ShapeFault Draft
  | [] => .ok draft
  | (name, json) :: rest => do (← draft.put name json).putAll rest

def ofJson : Json → Except ShapeFault Record
  | .object members => (({} : Draft).putAll members).map Draft.finish
  | .array items => do
    let draft ← ({} : Draft).putAll (names.zip items)
    if names.length < items.length then .error (.tooManyItems items.length) else return draft.finish
  | json => .error (notARecord json)

/-- A member's value may nest as far as the record around it leaves room. -/
def readJson (tokens : List Token) : Except Json.Fault (Json × List Token) :=
  (Reader.value (Reader.depthLimit - 1) tokens).mapError .text

/-- A mark. A list or an object is refused at its bracket, anything else as a whole. -/
def readMark : List Token → Except Json.Fault (Bool × List Token)
  | .bool active :: rest => .ok (active, rest)
  | .openArray :: _ => .error (.shape (notAMark (.array [])))
  | .openObject :: _ => .error (.shape (notAMark (.object [])))
  | tokens =>
    match readJson tokens with
    | .error fault => .error fault
    | .ok (json, _) => .error (.shape (notAMark json))

def Draft.readValue (draft : Draft) (name : String) (tokens : List Token) :
    Except Json.Fault (Draft × List Token) :=
  if name = "key" then
    (readJson tokens).map fun (json, rest) => ({ draft with key := json.collapse }, rest)
  else if name = "value" then
    (readJson tokens).map fun (json, rest) => ({ draft with value := json.collapse }, rest)
  else if name = "active" then
    (readMark tokens).map fun (active, rest) => ({ draft with active }, rest)
  else ((Outline.skip tokens).mapError .text).map fun rest => (draft, rest)

theorem readJson_length {tokens rest : List Token} {json : Json}
    (h : readJson tokens = .ok (json, rest)) : rest.length < tokens.length := by
  unfold readJson at h
  cases hv : Reader.value (Reader.depthLimit - 1) tokens with
  | error fault => rw [hv] at h; contradiction
  | ok p =>
    rw [hv] at h
    injection h with h
    exact Reader.value_length (h ▸ hv)

theorem readMark_length {tokens rest : List Token} {active : Bool}
    (h : readMark tokens = .ok (active, rest)) : rest.length < tokens.length := by
  unfold readMark at h
  split at h
  · injection h with h; injection h with _ h; simp [h]
  · contradiction
  · contradiction
  · split at h <;> contradiction

theorem Draft.readValue_length {draft draft' : Draft} {name : String} {tokens rest : List Token}
    (h : draft.readValue name tokens = .ok (draft', rest)) : rest.length < tokens.length := by
  have shorter {α : Type} {read : Except Json.Fault α} {f : α → Draft × List Token}
      (hf : ∀ a, read = .ok a → (f a).2.length < tokens.length)
      (h : read.map f = .ok (draft', rest)) : rest.length < tokens.length := by
    cases read with
    | error fault => contradiction
    | ok a =>
      injection h with h
      have := hf a rfl
      rwa [h] at this
  unfold Draft.readValue at h
  split at h
  · exact shorter (fun a ha => readJson_length ha) h
  split at h
  · exact shorter (fun a ha => readJson_length ha) h
  split at h
  · exact shorter (fun a ha => readMark_length ha) h
  · refine shorter (fun a ha => ?_) h
    cases hs : Outline.skip tokens with
    | error fault => rw [hs] at ha; contradiction
    | ok b =>
      rw [hs] at ha
      injection ha with ha
      exact ha ▸ Outline.run_length hs

/-- Items for the given names, up to the closing bracket. More of them are text that follows. -/
def Draft.readItems : Draft → List String → List Token → Except Json.Fault (Draft × List Token)
  | _, [], _ => .error (.text .trailingText)
  | draft, name :: names, tokens =>
    match draft.readValue name tokens with
    | .error fault => .error fault
    | .ok (draft, rest) =>
      match rest with
      | [] => .error (.text .endInList)
      | .closeArray :: rest => .ok (draft, rest)
      | .comma :: .closeArray :: _ => .error (.text .trailingComma)
      | .comma :: rest => draft.readItems names rest
      | _ => .error (.text (if names.isEmpty then .trailingText else .noListSeparator))

/-- The name of a member, which is checked before the value is looked at. -/
def Draft.readName (draft : Draft) : List Token → Except Json.Fault (String × List Token)
  | [] => .error (.text .endInValue)
  | .string name :: rest =>
    match draft.admits name, rest with
    | .error fault, _ => .error (.shape fault)
    | .ok (), .colon :: rest => .ok (name, rest)
    | .ok (), [] => .error (.text .endInObject)
    | .ok (), _ => .error (.text .noColon)
  | .oddString fault :: _ | .brokenString fault _ :: _ => .error (.text fault)
  | _ => .error (.text .nameNotString)

theorem Draft.readName_length {draft : Draft} {name : String} {tokens rest : List Token}
    (h : draft.readName tokens = .ok (name, rest)) : rest.length < tokens.length := by
  unfold Draft.readName at h
  split at h
  · contradiction
  · split at h
    · contradiction
    · injection h with h
      injection h with _ h
      subst h
      simp only [List.length_cons]
      omega
    · contradiction
    · contradiction
  · contradiction
  · contradiction
  · contradiction

def Draft.readMembers (draft : Draft) (tokens : List Token) :
    Except Json.Fault (Draft × List Token) :=
  match _hn : draft.readName tokens with
  | .error fault => .error fault
  | .ok (name, value) =>
    match _hv : draft.readValue name value with
    | .error fault => .error fault
    | .ok (draft, rest) =>
      match rest with
      | [] => .error (.text .endInObject)
      | .closeObject :: rest => .ok (draft, rest)
      | .comma :: .closeObject :: _ => .error (.text .trailingComma)
      | .comma :: rest => draft.readMembers rest
      | _ => .error (.text .noMemberSeparator)
termination_by tokens.length
decreasing_by
  have := Draft.readName_length _hn
  have := Draft.readValue_length _hv
  simp only [List.length_cons] at this
  omega

def readTokens : List Token → Except Json.Fault (Record × List Token)
  | [.openArray] => .error (.text .endInList)
  | .openArray :: .closeArray :: rest => .ok ({}, rest)
  | .openArray :: rest =>
    (({} : Draft).readItems names rest).map fun (draft, rest) => (draft.finish, rest)
  | [.openObject] => .error (.text .endInObject)
  | .openObject :: .closeObject :: rest => .ok ({}, rest)
  | .openObject :: rest =>
    (({} : Draft).readMembers rest).map fun (draft, rest) => (draft.finish, rest)
  | tokens =>
    match readJson tokens with
    | .error fault => .error fault
    | .ok (json, _) => .error (.shape (notARecord json))

def alone {α : Type} : α × List Token → Except Json.Fault α
  | (a, []) => .ok a
  | (_, _ :: _) => .error (.text .trailingText)

def read (text : String) : Except Json.Fault Record := do
  alone (← readTokens (tokens text.toList))

/-- The tokens of a body. Bytes that belong to no character are passed over in strings only: a string with
such a byte is odd, since it depends on what stands for the byte. -/
def bodyTokens (bytes : List UInt8) : List Token :=
  List.zipWith (fun a b => if a = b then a else .oddString .invalidCodePoint)
    (tokens (Text.decode '\ufffd' bytes)) (tokens (Text.decode '\ufffc' bytes))

theorem bodyTokens_utf8 (text : List Char) : bodyTokens (Text.utf8 text) = tokens text := by
  rw [bodyTokens, Text.decode_utf8, Text.decode_utf8, List.zipWith_self]
  simp

/-- The body of a response: a record, or null. -/
def readBody (bytes : List UInt8) : Except Json.Fault (Option Record) :=
  match bodyTokens bytes with
  | .null :: rest => alone (none, rest)
  | tokens => do return some (← alone (← readTokens tokens))

end Record

end StorageQuery.Indexer
