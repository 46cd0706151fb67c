import StorageQuery.Indexer.Client
import StorageQuery.Proofs.Indexer.Address
import StorageQuery.Proofs.Indexer.Record
/-!
Look-ups against any course of responses. Bad gateways are passed over as long as the budget lasts. The
response after them, or the last one that the budget allows, alone says how the look-up ends.
-/

set_option autoImplicit false

namespace StorageQuery.Indexer

def Response.IsBad (response : Response) : Prop := ∃ body, response = .answer 502 body

/-- White space of plain text: tab, new line, form feed, carriage return, blank. -/
def IsBlank (body : List UInt8) : Prop := ∀ b ∈ body, b ∈ [9, 10, 12, 13, 32]

namespace Client

open Record

/-- What a response says about an entry. -/
inductive Means (url : Url) : Response → Except StorageError (Option Storage) → Prop
  | dropped : Means url .dropped (.error (.transport (sendFailure url)))
  | timedOut : Means url .timedOut (.error (.transport s!"request timed out: {sendFailure url}"))
  | absent {status : Nat} {body : List UInt8} : status = 204 ∨ status = 404 →
    Means url (.answer status body) (.ok none)
  | blank {body : List UInt8} : IsBlank body → Means url (.answer 200 body) (.ok none)
  | null {body : List UInt8} : bodyTokens body = [.null] → Means url (.answer 200 body) (.ok none)
  | inactive {body : List UInt8} {record : Record} :
    Spells (bodyTokens body) record → record.active = false → Means url (.answer 200 body) (.ok none)
  | active {body : List UInt8} {record : Record} :
    Spells (bodyTokens body) record → record.active = true →
    Means url (.answer 200 body) ((Storage.ofDocument none record.value).map some)
  | undecodable {body : List UInt8} {fault : Json.Fault} :
    ¬ IsBlank body → bodyTokens body ≠ [.null] → (∀ record, ¬ Spells (bodyTokens body) record) →
    readBody body = .error fault →
    Means url (.answer 200 body) (.error (.undecodable fault.message))
  | status {status : Nat} {body : List UInt8} : status ≠ 200 → status ≠ 204 → status ≠ 404 →
    Means url (.answer status body) (.error (.status status url.text))

def conclude : Except IndexerError (Option Json) → Except StorageError (Option Storage)
  | .error e => .error e.toStorageError
  | .ok none => .ok none
  | .ok (some json) => (Storage.ofDocument none json).map some

theorem all_isBlankByte_iff {body : List UInt8} : body.all Text.isBlankByte = true ↔ IsBlank body := by
  simp [List.all_eq_true, Text.isBlankByte, IsBlank, or_assoc]

def blanks : List Char := ['\t', '\n', '\x0c', '\r', ' ']

theorem exists_text_of_isBlank {body : List UInt8} (h : IsBlank body) :
    ∃ text, body = Text.utf8 text ∧ ∀ c ∈ text, c ∈ blanks := by
  induction body with
  | nil => exact ⟨[], rfl, List.forall_mem_nil _⟩
  | cons b body ih =>
    obtain ⟨hb, hbody⟩ := List.forall_mem_cons.1 h
    obtain ⟨text, rfl, htext⟩ := ih hbody
    obtain ⟨c, hc, hencode⟩ : ∃ c ∈ blanks, String.utf8EncodeChar c = [b] := by
      simp only [List.mem_cons, List.not_mem_nil, or_false] at hb
      rcases hb with rfl | rfl | rfl | rfl | rfl
      · exact ⟨'\t', by decide, rfl⟩
      · exact ⟨'\n', by decide, rfl⟩
      · exact ⟨'\x0c', by decide, rfl⟩
      · exact ⟨'\r', by decide, rfl⟩
      · exact ⟨' ', by decide, rfl⟩
    refine ⟨c :: text, ?_, List.forall_mem_cons.2 ⟨hc, htext⟩⟩
    change b :: Text.utf8 text = String.utf8EncodeChar c ++ Text.utf8 text
    rw [hencode]
    rfl

/-- A form feed begins no token, and the other blanks stand between tokens. -/
theorem tokens_of_blanks {text : List Char} (h : ∀ c ∈ text, c ∈ blanks) :
    tokens text = [] ∨ tokens text = [.broken .noValue] := by
  induction text with
  | nil => exact .inl (by rw [tokens])
  | cons c text ih =>
    obtain ⟨hc, htext⟩ := List.forall_mem_cons.1 h
    rw [tokens]
    split
    · exact ih htext
    · rename_i hspace
      have hfeed : c = '\x0c' := by
        simp only [blanks, List.mem_cons, List.not_mem_nil, or_false] at hc
        rcases hc with rfl | rfl | rfl | rfl | rfl <;> first | rfl | exact absurd rfl hspace
      have hend : tokens [] = [] := by rw [tokens]
      subst hfeed
      exact .inr (congrArg (Token.broken .noValue :: ·) hend)

theorem not_spells_of_isBlank {body : List UInt8} {record : Record} (h : IsBlank body) :
    ¬ Spells (bodyTokens body) record := by
  obtain ⟨text, rfl, hblanks⟩ := exists_text_of_isBlank h
  rw [bodyTokens_utf8]
  rcases tokens_of_blanks hblanks with heq | heq
  · rw [heq]
    nofun
  · rw [heq]
    nofun

section
variable {body : List UInt8} {record : Record} {fault : Json.Fault}

theorem readEntry_of_isBlank (h : IsBlank body) : readEntry body = .ok none := by
  rw [readEntry, if_pos (all_isBlankByte_iff.2 h)]

theorem readEntry_of_readBody_error (hblank : ¬ IsBlank body) (h : readBody body = .error fault) :
    readEntry body = .error (.json fault) := by
  rw [readEntry, if_neg (mt all_isBlankByte_iff.1 hblank), h]

theorem readEntry_of_null (h : bodyTokens body = [.null]) : readEntry body = .ok none := by
  by_cases hblank : IsBlank body
  · exact readEntry_of_isBlank hblank
  · rw [readEntry, if_neg (mt all_isBlankByte_iff.1 hblank), readBody_eq_ok_iff.2 (.inl ⟨h, rfl⟩)]
    rfl

theorem readEntry_of_spells (h : Spells (bodyTokens body) record) :
    readEntry body = .ok (if record.active then some record.value else none) := by
  have hblank : ¬ IsBlank body := fun hblank => not_spells_of_isBlank hblank h
  rw [readEntry, if_neg (mt all_isBlankByte_iff.1 hblank),
    readBody_eq_ok_iff.2 (.inr ⟨record, h, rfl⟩)]
  cases hactive : record.active <;> simp [Option.filter, hactive]

end

theorem means_iff {url : Url} {response : Response} {result : Except StorageError (Option Storage)} :
    Means url response result ↔ result = conclude (settle url response) := by
  have hok (body : List UInt8) : settle url (.answer 200 body) = readEntry body := rfl
  constructor
  · rintro (_ | _ | hstatus | hblank | hnull | ⟨hspells, hactive⟩ | ⟨hspells, hactive⟩ |
      ⟨hblank, -, -, hread⟩ | ⟨h200, h204, h404⟩)
    · rfl
    · rfl
    · rcases hstatus with rfl | rfl <;> rfl
    · rw [hok, readEntry_of_isBlank hblank]
      rfl
    · rw [hok, readEntry_of_null hnull]
      rfl
    · rw [hok, readEntry_of_spells hspells, hactive]
      rfl
    · rw [hok, readEntry_of_spells hspells, hactive]
      rfl
    · rw [hok, readEntry_of_readBody_error hblank hread]
      rfl
    · rw [settle, if_neg h200, if_neg (not_or.2 ⟨h204, h404⟩)]
      rfl
  · rintro rfl
    match response with
    | .dropped => exact .dropped
    | .timedOut => exact .timedOut
    | .answer status body =>
      by_cases h200 : status = 200
      · subst h200
        rw [hok]
        by_cases hblank : IsBlank body
        · rw [readEntry_of_isBlank hblank]
          exact .blank hblank
        cases hread : readBody body with
        | error fault =>
          rw [readEntry_of_readBody_error hblank hread]
          refine .undecodable hblank (fun hnull => ?_) (fun record hspells => ?_) hread
          · exact absurd (hread.symm.trans (readBody_eq_ok_iff.2 (.inl ⟨hnull, rfl⟩))) nofun
          · exact absurd (hread.symm.trans (readBody_eq_ok_iff.2 (.inr ⟨record, hspells, rfl⟩))) nofun
        | ok found =>
          rcases readBody_eq_ok_iff.1 hread with ⟨hnull, rfl⟩ | ⟨record, hspells, rfl⟩
          · rw [readEntry_of_null hnull]
            exact .null hnull
          · rw [readEntry_of_spells hspells]
            cases hactive : record.active with
            | false => exact .inactive hspells hactive
            | true => exact .active hspells hactive
      · by_cases hgone : status = 204 ∨ status = 404
        · rw [settle, if_neg h200, if_pos hgone]
          exact .absent hgone
        · rw [settle, if_neg h200, if_neg hgone]
          obtain ⟨h204, h404⟩ := not_or.1 hgone
          exact .status h200 h204 h404

theorem isBadGateway_iff {response : Response} :
    Response.isBadGateway response = true ↔ response.IsBad := by
  cases response <;> simp [Response.isBadGateway, Response.IsBad]

section
variable {url : Url} {responses : Nat → Response} {retries sent : Nat}

theorem request_of_isBad (h : (responses sent).IsBad) :
    request url responses (retries + 1) sent = request url responses retries (sent + 1) := by
  rw [request, if_pos (isBadGateway_iff.2 h)]

theorem request_of_not_isBad (h : ¬ (responses sent).IsBad) :
    request url responses retries sent = ⟨settle url (responses sent), sent + 1⟩ := by
  cases retries with
  | zero => rfl
  | succ retries => rw [request, if_neg (mt isBadGateway_iff.1 h)]

theorem request_passes {i : Nat} (hi : i ≤ retries) (h : ∀ j < i, (responses (sent + j)).IsBad) :
    request url responses retries sent = request url responses (retries - i) (sent + i) := by
  induction i generalizing retries sent with
  | zero => rfl
  | succ i ih =>
    obtain ⟨rest, rfl⟩ : ∃ rest, retries = rest + 1 := ⟨retries - 1, by omega⟩
    have hfirst : (responses sent).IsBad := h 0 (by omega)
    have hrest : ∀ j < i, (responses (sent + 1 + j)).IsBad := by
      intro j hj
      rw [Nat.add_right_comm]
      exact h (j + 1) (by omega)
    rw [request_of_isBad hfirst, ih (by omega) hrest]
    congr 1 <;> omega

theorem lt_requests : sent < (request url responses retries sent).requests := by
  induction retries generalizing sent with
  | zero => exact Nat.lt_succ_self sent
  | succ retries ih =>
    by_cases hbad : (responses sent).IsBad
    · rw [request_of_isBad hbad]
      exact Nat.lt_of_succ_lt ih
    · rw [request_of_not_isBad hbad]
      exact Nat.lt_succ_self sent

theorem request_congr {other : Nat → Response}
    (h : ∀ j < (request url responses retries sent).requests, other j = responses j) :
    request url other retries sent = request url responses retries sent := by
  have hfirst : other sent = responses sent := h sent lt_requests
  -- The first response settles whether there is a second request, so it has to agree before the rest can.
  induction retries generalizing sent with
  | zero => rw [request, request, hfirst]
  | succ retries ih =>
    by_cases hbad : (responses sent).IsBad
    · rw [request_of_isBad hbad] at h ⊢
      rw [request_of_isBad (hfirst ▸ hbad)]
      exact ih h (h (sent + 1) lt_requests)
    · rw [request_of_not_isBad hbad, request_of_not_isBad (hfirst ▸ hbad), hfirst]

end

/-- Let the URL of an entry be given, and what each request for it meets with. Up to the first response
that is no bad gateway the entry is asked for again, as long as the budget lasts. That response alone says how
the look-up ends; if the budget lasts for bad gateways only, the look-up ends with their status. What
other URLs and later requests would meet with does not matter. -/
theorem lookup_settles {client : Client} {pointer : String} {key : Key} {url : Url}
    (hurl : client.entryUrl pointer key = .ok url) (network : Network) :
    let ended := client.lookup network pointer key
    let responses := network url.text
    (∀ i ≤ client.retries, (∀ j < i, (responses j).IsBad) → ¬ (responses i).IsBad →
      ended.requests = i + 1 ∧ ∀ result, ended.result = result ↔ Means url (responses i) result) ∧
    ((∀ i ≤ client.retries, (responses i).IsBad) →
      ended.requests = client.retries + 1 ∧ ended.result = .error (.status 502 url.text)) ∧
    ∀ other : Network, (∀ j < ended.requests, other url.text j = responses j) →
      client.lookup other pointer key = ended := by
  intro ended responses
  have hlookup (network : Network) : client.lookup network pointer key =
      ⟨conclude (request url (network url.text) client.retries 0).result,
        (request url (network url.text) client.retries 0).requests⟩ := by
    rw [lookup, fetch, hurl]
    rfl
  have hended : ended = ⟨conclude (request url responses client.retries 0).result,
      (request url responses client.retries 0).requests⟩ := hlookup network
  refine ⟨fun i hi hbad hgood => ?_, fun hbad => ?_, fun other hother => ?_⟩
  · have hrequest : request url responses client.retries 0 = ⟨settle url (responses i), i + 1⟩ := by
      rw [request_passes hi (by simpa using hbad), Nat.zero_add, request_of_not_isBad hgood]
    rw [hended, hrequest]
    exact ⟨rfl, fun result => eq_comm.trans means_iff.symm⟩
  · obtain ⟨body, hlast⟩ := hbad client.retries (Nat.le_refl _)
    have hrequest : request url responses client.retries 0 =
        ⟨settle url (.answer 502 body), client.retries + 1⟩ := by
      rw [request_passes (Nat.le_refl _) (fun j hj => by simpa using hbad j (Nat.le_of_lt hj)), Nat.sub_self,
        Nat.zero_add, request, hlast]
    rw [hended, hrequest]
    exact ⟨rfl, rfl⟩
  · rw [hended] at hother
    rw [hended, hlookup, request_congr hother]

def flaky : Network := fun _ i =>
  if i < 2 then .answer 502 [] else .answer 200 (Text.utf8 "\x7b\"value\":1\x7d".toList)

theorem lookup_settles_third :
    ∃ url one, ofDefaults.entryUrl "511" (.string "a") = .ok url ∧ Number.text one = "1" ∧
      (ofDefaults.lookup flaky "511" (.string "a")).requests = 3 ∧
      (ofDefaults.lookup flaky "511" (.string "a")).result = .ok (some (.number one)) := by
  obtain ⟨url, hurl⟩ : ∃ url, ofDefaults.entryUrl "511" (.string "a") = .ok url :=
    ⟨_, @entryUrl_eq ofDefaults "511" (.string "a") [[]] rfl⟩
  let one : Number := .integer 1 (by decide)
  obtain ⟨hsettles, -, -⟩ := lookup_settles hurl flaky
  have hbad : ∀ i < 2, (flaky url.text i).IsBad := fun i hi => ⟨[], if_pos hi⟩
  have hgood : ¬ (flaky url.text 2).IsBad := fun ⟨body, h⟩ => nomatch (Response.answer.inj h).1
  obtain ⟨hrequests, hresult⟩ := hsettles 2 (by decide) hbad hgood
  refine ⟨url, one, hurl, by decide, hrequests, (hresult _).2 ?_⟩
  have htokens : bodyTokens (Text.utf8 "\x7b\"value\":1\x7d".toList) =
      [.openObject, .string "value", .colon, .number one, .closeObject] := by
    rw [bodyTokens_utf8]
    decide +kernel
  have hdescribes : Describes [("value", [.number one])] { value := some (.number one) } :=
    ⟨.absent, .once ⟨.number one, rfl, rfl⟩, .absent,
      List.forall_mem_singleton.2 fun h => absurd (by decide) h⟩
  have hspells := Spells.object hdescribes
  exact .active (htokens ▸ hspells) rfl

end Client

end StorageQuery.Indexer
