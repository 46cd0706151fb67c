import Mathlib.Data.List.Permutation
import StorageQuery.Command.Run
import StorageQuery.Proofs.Answer.AtHand
import StorageQuery.Proofs.Indexer.Address
set_option autoImplicit false

namespace StorageQuery

theorem Path.components_cases {name : String} (hn : name ≠ "") :
    (Path.mk name).components = [name] ∨ 1 < (Path.mk name).components.length := by
  have hjoin := Text.join_split '.' name.toList
  rw [components, if_neg hn]
  match hs : Text.split '.' name.toList with
  | [] => exact absurd hs (Text.split_ne_nil '.' name.toList)
  | [part] =>
    rw [hs, Text.join] at hjoin
    exact .inl (by rw [hjoin, List.map_singleton, String.ofList_toList])
  | _ :: _ :: _ => exact .inr (by simp)

theorem Storage.get?_of_mem {fields : List (String × Storage)} {name : String} {value : Storage}
    (hd : Table.Distinct (· == ·) fields) (hm : (name, value) ∈ fields) (hn : name ≠ "") :
    (Storage.object fields).get? ⟨name⟩ = some value := by
  have hfield : Table.find? (· == ·) name fields = some value := (Table.find?_eq_some_iff_mem hd).2 hm
  rw [get?]
  rcases Path.components_cases hn with hone | hmany
  · simp [hone, descend?, child?, hfield]
  · simp [hmany, field?, hfield]

theorem Selector.isBlank_ofText {name : String} (hn : name ≠ "") : (ofText name).isBlank = false := by
  rcases Path.components_cases hn with hone | hmany
  · simp [ofText, isBlank, Path.isEmpty, hone]
  · refine List.isEmpty_eq_false_iff.2 fun hnil => ?_
    rw [hnil] at hmany
    cases hmany

theorem Selector.ofJson_names {fields : List (String × Storage)} (h : ∀ field ∈ fields, field.1 ≠ "") :
    ofJson (.array (fields.map fun field => .string field.1)) =
      .ok (fields.map fun field => ofText field.1) := by
  have hwires : readWires Wire.resolve (fields.map fun field => .string field.1) =
      .ok (fields.map fun field => .path field.1) := by
    clear h
    induction fields with
    | nil => rfl
    | cons field rest ih =>
      rw [List.map_cons, readWires, wire?, ih]
      rfl
  have hresolve : Wire.resolveAll Wire.resolve (fields.map fun field => .path field.1) =
      .ok (fields.map fun field => ofText field.1) := by
    clear hwires
    induction fields with
    | nil => rfl
    | cons field rest ih =>
      obtain ⟨hname, hrest⟩ := List.forall_mem_cons.1 h
      rw [List.map_cons, Wire.resolveAll, Wire.resolve, if_neg hname, ih hrest]
      rfl
  rw [ofJson, ofJsonBy, readWireList, hwires]
  exact hresolve

theorem Reading.level_names (contents : Contents) (policy : WidePolicy) {root : Storage}
    {asked : List (String × Storage)}
    (h : ∀ field ∈ asked, field.1 ≠ "" ∧ root.get? ⟨field.1⟩ = some field.2 ∧ field.2 ≠ .null) :
    (level contents policy root (asked.map fun field => Selector.ofText field.1)).map Answer.members =
      Storage.plainFields policy asked := by
  induction asked with
  | nil => rfl
  | cons field rest ih =>
    obtain ⟨name, value⟩ := field
    obtain ⟨⟨hname, hget, hnull⟩, hrest⟩ := List.forall_mem_cons.1 h
    have hfirst : Reading.field contents policy root (Selector.ofText name) =
        (value.toPlain policy).map .value := field_path_found hget hnull
    rw [List.map_cons, level_cons (Selector.isBlank_ofText hname), hfirst, Storage.plainFields, ← ih hrest]
    cases value.toPlain policy with
    | error e => rfl
    | ok json => cases level contents policy root (rest.map fun field => Selector.ofText field.1) <;> rfl

namespace Command

section
variable {files : Files} {network : Indexer.Network} {call : Invocation} {document : Json} {root : Storage}
  (hdocument : readJson files call.storage = .ok document)
  (hroot : Storage.ofDocument (some Indexer.resolver) document = .ok root)
include hdocument hroot

theorem run_render {client : Indexer.Client} (hclient : Indexer.Client.ofSettings call.settings = .ok client) :
    run files network { call with selectors := none } =
      ((root.render call.policy).outcome.map (layOut call.pretty)).mapError .storage := by
  simp only [run, hclient, hdocument, hroot, bind, Except.bind, Except.mapError]
  cases (root.render call.policy).outcome <;> rfl

theorem run_answer {client : Indexer.Client} (hclient : Indexer.Client.ofSettings call.settings = .ok client)
    {path : String} {selectors : List Selector} (hselectors : readSelectors files path = .ok selectors) :
    run files network { call with selectors := some path } =
      ((root.answer (client.remote network) call.policy selectors).outcome.map fun answer =>
        layOut call.pretty answer.tree).mapError .storage := by
  simp only [run, hclient, hdocument, hroot, hselectors, bind, Except.bind, Except.mapError]
  cases (root.answer (client.remote network) call.policy selectors).outcome <;> rfl

end

theorem run_of_no_client (files : Files) (network : Indexer.Network) {call : Invocation} (asked : Option String)
    {e : IndexerError} (hclient : Indexer.Client.ofSettings call.settings = .error e) :
    run files network { call with selectors := asked } = .error (.indexer e) := by
  rw [run, hclient]
  rfl

end Command

section
variable {fields : List (String × Storage)} (hd : Table.Distinct (· == ·) fields)
  (hnull : ∀ field ∈ fields, field.2 ≠ .null) (hname : ∀ field ∈ fields, field.1 ≠ "")
include hd hnull hname

theorem Storage.map_tree_outcome_answer (remote : Remote) (policy : WidePolicy) :
    ((Storage.object fields).answer remote policy
      (fields.map fun field => Selector.ofText field.1)).outcome.map Answer.tree =
      ((Storage.object fields).render policy).outcome := by
  have hhand : ∀ selector ∈ fields.map fun field => Selector.ofText field.1,
      selector.AtHand (.object fields) := fun selector hselector => by
    obtain ⟨field, -, rfl⟩ := List.mem_map.1 hselector
    trivial
  have hrender : ((Storage.object fields).render policy).outcome = (plainFields policy fields).map .object := by
    rw [render, Timeline.noteFailure]
    split <;> rfl
  have hlevel := Reading.level_names remote.contents policy fun field hfield =>
    ⟨hname field hfield, get?_of_mem hd hfield (hname field hfield), hnull field hfield⟩
  rw [outcome_answer_of_atHand hhand, hrender, ← hlevel]
  cases Reading.level remote.contents policy (.object fields)
    (fields.map fun field => Selector.ofText field.1) <;> rfl

/-- An object asked for all of its fields is written, compact or with lines, as the whole object is, and
fails as that does. So the command prints one text whether it is given all names or no selectors: the answer or
the plain document, laid out as it is told to, unless there is no indexer to be had. -/
theorem Command.answer_all_fields :
    (∀ remote policy,
      let answered := ((Storage.object fields).answer remote policy
        (fields.map fun field => Selector.ofText field.1)).outcome
      let rendered := ((Storage.object fields).render policy).outcome
      answered.map Answer.text = rendered.map Json.text ∧
        answered.map Answer.prettyText = rendered.map Json.prettyText) ∧
    ∀ (files : Files) (network : Indexer.Network) (call : Invocation) (document : Json) (path : String),
      readJson files call.storage = .ok document →
      Storage.ofDocument (some Indexer.resolver) document = .ok (.object fields) →
      readJson files path = .ok (.array (fields.map fun field => .string field.1)) →
      run files network { call with selectors := some path } =
        run files network { call with selectors := none } ∧
      (∀ client, Indexer.Client.ofSettings call.settings = .ok client →
        run files network { call with selectors := none } =
          (((Storage.object fields).render call.policy).outcome.map (layOut call.pretty)).mapError .storage ∧
        run files network { call with selectors := some path } =
          (((Storage.object fields).answer (client.remote network) call.policy
            (fields.map fun field => Selector.ofText field.1)).outcome.map fun answer =>
              layOut call.pretty answer.tree).mapError .storage) ∧
      ∀ e, Indexer.Client.ofSettings call.settings = .error e →
        run files network { call with selectors := none } = .error (.indexer e) := by
  have htree := Storage.map_tree_outcome_answer hd hnull hname
  refine ⟨fun remote policy => ?_, fun files network call document path hdocument hroot hpath => ?_⟩
  · dsimp only
    rw [← htree remote policy]
    cases ((Storage.object fields).answer remote policy
      (fields.map fun field => Selector.ofText field.1)).outcome <;> exact ⟨rfl, rfl⟩
  · have hselectors : readSelectors files path = .ok (fields.map fun field => Selector.ofText field.1) := by
      rw [readSelectors, hpath]
      exact congrArg (Except.mapError _) (Selector.ofJson_names hname)
    refine ⟨?_, fun client hclient => ⟨run_render hdocument hroot hclient,
      run_answer hdocument hroot hclient hselectors⟩, fun e hclient => run_of_no_client files network none hclient⟩
    cases hclient : Indexer.Client.ofSettings call.settings with
    | error e => rw [run_of_no_client files network _ hclient, run_of_no_client files network _ hclient]
    | ok client =>
      rw [run_render hdocument hroot hclient, run_answer hdocument hroot hclient hselectors,
        ← htree (client.remote network) call.policy]
      cases ((Storage.object fields).answer (client.remote network) call.policy
        (fields.map fun field => Selector.ofText field.1)).outcome <;> rfl

end

/-- A name with a dot beside the field and the field within it that it might stand for, and one that looks
like a place in a list. -/
theorem Command.answer_all_fields_dotted :
    let fields : List (String × Storage) := [("a", .object [("b", .null)]), ("a.b", .bool true),
      ("0", .map [(.string "k", .null)])]
    let files : Files := fun path =>
      if path = "s" then
        .ok "\x7b\"a\":\x7b\"b\":null\x7d,\"a.b\":true,\"0\":\x7b\"$map\":[\x7b\"key\":\"k\"\x7d]\x7d\x7d"
      else
        .ok "[\"a\",\"a.b\",\"0\"]"
    let network : Indexer.Network := fun _ _ => .answer 500 []
    let call : Invocation := { storage := "s", policy := .strict }
    Table.Distinct (· == ·) fields ∧ (∀ field ∈ fields, field.2 ≠ .null) ∧
      (∀ field ∈ fields, field.1 ≠ "") ∧
      run files network { call with selectors := some "t" } =
        run files network { call with selectors := none } ∧
      run files network { call with selectors := none } =
        .ok "\x7b\"a\":\x7b\"b\":null\x7d,\"a.b\":true,\"0\":[\x7b\"key\":\"k\",\"value\":null\x7d]\x7d" := by
  intro fields files network call
  have hd : Table.Distinct (· == ·) fields := by
    simp [fields, Table.Distinct, Table.keys]
  have hnull : ∀ field ∈ fields, field.2 ≠ .null := by simp [fields]
  have hname : ∀ field ∈ fields, field.1 ≠ "" := by simp [fields]
  obtain ⟨-, hrun⟩ := answer_all_fields hd hnull hname
  have hdocument : readJson files "s" = .ok (.object [("a", .object [("b", .null)]), ("a.b", .bool true),
      ("0", .object [("$map", .array [.object [("key", .string "k")]])])]) := by cbv
  have hpath : readJson files "t" = .ok (.array [.string "a", .string "a.b", .string "0"]) := by cbv
  obtain ⟨heq, htexts, -⟩ := hrun files network call _ "t" hdocument rfl hpath
  exact ⟨hd, hnull, hname, heq, (htexts _ Indexer.Client.ofSettings_default).1⟩

end StorageQuery
