import StorageQuery.Json.Basic
set_option autoImplicit false

namespace StorageQuery.Json

def parts : Json → List Json
  | .array items => items
  | .object members => members.map Prod.snd
  | _ => []

inductive Within : Json → Json → Prop where
  | self (json : Json) : Within json json
  | part {json part whole : Json} (member : part ∈ whole.parts) (inner : Within json part) :
    Within json whole

theorem forall_within_iff {p : Json → Prop} {whole : Json} :
    (∀ json : Json, json.Within whole → p json) ↔
      p whole ∧ ∀ part ∈ whole.parts, ∀ json : Json, json.Within part → p json := by
  constructor
  · intro h
    exact ⟨h whole (.self whole), fun part hpart json hjson => h json (.part hpart hjson)⟩
  · rintro ⟨hwhole, hparts⟩ json hjson
    cases hjson with
    | self => exact hwhole
    | part hpart hinner => exact hparts _ hpart json hinner

end StorageQuery.Json
