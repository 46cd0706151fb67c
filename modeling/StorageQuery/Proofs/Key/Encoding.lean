import StorageQuery.Proofs.Key.Equality
set_option autoImplicit false

namespace StorageQuery

theorem Json.compactMembers_cons (name : String) (value : Json) (rest : List (String × Json)) :
    compactMembers ((name, value) :: rest) =
      quoted name ++ ':' :: (value.compact ++ if rest = [] then [] else ',' :: compactMembers rest) := by
  cases rest with
  | nil => simp [compactMembers]
  | cons next rest =>
    have hnext : next :: rest ≠ [] := List.cons_ne_nil next rest
    rw [compactMembers, if_neg hnext, List.append_assoc, List.cons_append]
    exact fun h => hnext h

namespace Key

mutual
/-- A document has one form of a key at most, the one of its kind. -/
theorem decode?_eq_ofJson? : (json : Json) → decode? json = ofJson? json
  | .null | .bool _ | .number _ | .string _ | .array _ => rfl
  | .object members => by
    rw [decode?, ofJson?, decodeMembers?_eq_ofMembers? members]
    rfl
theorem decodeMembers?_eq_ofMembers? : (members : List (String × Json)) →
    decodeMembers? members = ofMembers? members
  | [] => rfl
  | (name, json) :: rest => by
    rw [decodeMembers?, ofMembers?, decode?_eq_ofJson? json, decodeMembers?_eq_ofMembers? rest]
    cases ofJson? json <;> cases ofMembers? rest <;> rfl
end

theorem decode?_eq_some_iff {json : Json} (h : json.Collapsed) {key : Key} :
    decode? json = some key ↔ key.toJson = json := by
  rw [decode?_eq_ofJson?, ofJson?_eq_some_iff h]

theorem ofShape_eq_ok_iff {json : Json} {key : Key} : ofShape json = .ok key ↔ ofJson? json = some key := by
  rw [ofShape, decode?_eq_ofJson?]
  cases ofJson? json <;> simp

theorem ofJson?_eq_none_iff {json : Json} :
    ofJson? json = none ↔ json = .null ∨ (∃ items, json = .array items) ∨
      ∃ members, json = .object members ∧
        ∃ part : Json, part.Within json ∧ (part = .null ∨ ∃ items, part = .array items) := by
  have hnone : ofJson? json = none ↔
      ∃ part : Json, part.Within json ∧ (part = .null ∨ ∃ items, part = .array items) := by
    rw [← not_iff_not, Option.eq_none_iff_forall_ne_some]
    simp only [ne_eq, not_forall, not_not, not_exists, not_and, not_or]
    exact exists_ofJson?_iff json
  cases json with
  | object members => simp [hnone]
  | null => exact iff_of_true rfl (.inl rfl)
  | array items => exact iff_of_true rfl (.inr (.inl ⟨items, rfl⟩))
  | _ => simp [ofJson?]

mutual
theorem chars_eq_compact : (key : Key) → key.chars = key.toJson.compact
  | .bool true | .bool false | .number _ | .string _ => rfl
  | .composite fields => by
    rw [chars, toJson, Json.compact, fieldChars_eq_compactMembers true fields]
    rfl
theorem fieldChars_eq_compactMembers (first : Bool) : (fields : List (String × Key)) →
    fieldChars first fields =
      (if first = true ∨ fields = [] then [] else [',']) ++ Json.compactMembers (toMembers fields)
  | [] => by
    rw [if_pos (.inr rfl)]
    rfl
  | (name, key) :: rest => by
    have hrest := fieldChars_eq_compactMembers false rest
    rw [fieldChars, toMembers, Json.compactMembers_cons, chars_eq_compact key, hrest]
    cases rest <;> simp [toMembers, Json.compactMembers]
end

theorem encoded_eq_text (key : Key) : key.encoded = key.toJson.text :=
  congrArg String.ofList key.chars_eq_compact

theorem requestText_of_composite {key : Key} (h : key.isComposite = true) :
    key.requestText = key.toJson.text := by
  rw [requestText, if_pos h, encoded_eq_text]

theorem requestText_of_scalar {key : Key} (h : key.isComposite = false) : key.requestText = key.canonical := by
  rw [requestText, h, if_neg Bool.false_ne_true]

/-- Both decoders find a key in the same documents, and the same key, whose document is the one that was read.
Reading takes back the document of a key, and all texts of a key are those of its document, but for the text
under which a scalar is asked for: that is the text by which scalars are compared. -/
theorem encodings_agree (json : Json) (key : Key) (hj : json.Collapsed) (hk : key.WellFormed) :
    (ofJson? json = none ↔ json = .null ∨ (∃ items, json = .array items) ∨
      ∃ members, json = .object members ∧
        ∃ part : Json, part.Within json ∧ (part = .null ∨ ∃ items, part = .array items)) ∧
    (∀ found, ofShape json = .ok found ↔ ofJson? json = some found) ∧
    (∀ found, ofJson? json = some found → found.toJson = json) ∧
    ofJson? key.toJson = some key ∧
    key.encoded = key.toJson.text ∧
    key.display = key.toJson.text ∧
    (key.isComposite = true → key.requestText = key.toJson.text) ∧
    (key.isComposite = false → key.requestText = key.canonical ∧
      ∀ other : Key, other.isComposite = false → key.same other = true →
        other.requestText = key.requestText) := by
  refine ⟨ofJson?_eq_none_iff, fun found => ofShape_eq_ok_iff, fun found => toJson_of_ofJson? json hj,
    ofJson?_toJson key hk, encoded_eq_text key, rfl, requestText_of_composite, fun hscalar => ?_⟩
  refine ⟨requestText_of_scalar hscalar, fun other hother hsame => ?_⟩
  rw [same_of_scalar hscalar, Bool.and_eq_true, beq_iff_eq] at hsame
  rw [requestText_of_scalar hscalar, requestText_of_scalar hother, hsame.2]

/-- A record within a record, with names and texts that need escapes, and two scalars of different kinds. -/
theorem encodings_agree_nested :
    let five : Number := .integer 5 (by decide)
    let document : Json := .object [("b", .number (.real (.zero true))),
      ("a\"", .object [("y", .bool true), ("x", .string "\n"), ("", .object [])])]
    let key : Key := .composite [("b", .number (.real (.zero true))),
      ("a\"", .composite [("y", .bool true), ("x", .string "\n"), ("", .composite [])])]
    document.Collapsed ∧ key.WellFormed ∧ ofShape document = .ok key ∧ ofJson? document = some key ∧
      key.toJson = document ∧ key.encoded = document.text ∧ key.requestText = document.text ∧
      (Key.string "5").requestText = (Key.number five).requestText := by
  intro five document key
  have hj : document.Collapsed := by
    simp [document, Json.Collapsed, Json.CollapsedMembers, Table.Distinct, Table.keys]
  have hk : key.WellFormed := by
    simp [key, WellFormed, WellFormedFields, Table.Distinct, Table.keys]
  have hread : ofJson? document = some key := rfl
  obtain ⟨-, hdecoded, hback, -, hencoded, -, hrequest, -⟩ := encodings_agree document key hj hk
  obtain ⟨-, -, -, -, -, -, -, hscalar⟩ := encodings_agree document (.number five) hj trivial
  obtain ⟨-, hfive⟩ := hscalar rfl
  have hdocument := hback key hread
  rw [hdocument] at hencoded hrequest
  exact ⟨hj, hk, (hdecoded key).2 hread, hread, hdocument, hencoded, hrequest rfl,
    hfive (.string "5") rfl (by decide +kernel)⟩

end Key

end StorageQuery
