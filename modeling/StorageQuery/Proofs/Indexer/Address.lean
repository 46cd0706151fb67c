import StorageQuery.Indexer.Client
import StorageQuery.Proofs.Key.Request
import StorageQuery.Proofs.Url.Segment
/-!
Addresses of entries. The URL of an entry is the base with five segments more in its path, and pointer and
key come back from two of them, as long as both are whole texts. Tabs and line ends of a key are lost on
the way, so another key may have the same address.
-/

set_option autoImplicit false

namespace StorageQuery

namespace Url

/-- The URL is the base with an entry's segments behind its path, and the third and the last of them stand
for the pointer and the key. -/
def Addresses (base : Url) (pointer key : List Char) (url : Url) : Prop :=
  ∃ segments forPointer forKey,
    base.path = .segments segments ∧
    url = { base with
      path := .segments (stem segments ++
        ["v1".toList, "bigmaps".toList, forPointer, "keys".toList, forKey]) } ∧
    IsSegment forPointer ∧ IsSegment forKey ∧
    Percent.decode forPointer = Text.utf8 pointer ∧ Percent.decode forKey = Text.utf8 key

def entryPath (special : Bool) (segments : List (List Char)) (pointer key : List Char) :
    List (List Char) :=
  ["v1".toList, "bigmaps".toList, pointer, "keys".toList, key].foldl (push special) (popIfEmpty segments)

variable {special : Bool} {segments : List (List Char)} {pointer key : List Char}

theorem push_v1 : push special (popIfEmpty segments) "v1".toList = trunk segments ++ ["v1".toList] := by
  rw [push_popIfEmpty (by decide)]
  cases special <;> rfl

def beforePointer (segments : List (List Char)) : List (List Char) :=
  trunk segments ++ ["v1".toList, "bigmaps".toList]

theorem length_beforePointer (segments : List (List Char)) :
    (beforePointer segments).length = (trunk segments).length + 2 := by
  simp [beforePointer]

theorem push_bigmaps :
    push special (trunk segments ++ ["v1".toList]) "bigmaps".toList = beforePointer segments := by
  have hroot : trunk segments ++ ["v1".toList] ≠ [[]] := by
    intro heq
    have hlast := congrArg List.getLast? heq
    simp at hlast
  rw [push_behind (by decide) hroot, List.append_assoc]
  cases special <;> rfl

theorem push_keys (h : 1 < segments.length) :
    push special segments "keys".toList = segments ++ ["keys".toList] := by
  rw [push_behind (by decide) (ne_root_of_length h)]
  cases special <;> rfl

def beforeKey (special : Bool) (segments : List (List Char)) (pointer : List Char) : List (List Char) :=
  push special (beforePointer segments) pointer ++ ["keys".toList]

theorem length_beforeKey (special : Bool) (segments : List (List Char)) (pointer : List Char) :
    (trunk segments).length + 3 ≤ (beforeKey special segments pointer).length ∧
      (beforeKey special segments pointer).length ≤ (trunk segments).length + 4 := by
  have hfront := length_beforePointer segments
  have hlong : 1 < (beforePointer segments).length := by omega
  have hpush := length_push special pointer hlong
  rw [beforeKey, List.length_append, List.length_singleton]
  omega

theorem entryPath_eq :
    entryPath special segments pointer key = push special (beforeKey special segments pointer) key := by
  have hlength := length_beforeKey special segments pointer
  rw [beforeKey, List.length_append, List.length_singleton] at hlength
  simp only [entryPath, List.foldl_cons, List.foldl_nil, push_v1, push_bigmaps, beforeKey]
  rw [push_keys (by omega)]

/-- The path of an entry holds its segments behind the base if pointer and key are whole, unless the base
has two slashes for its path. -/
theorem entryPath_iff :
    (∃ forPointer forKey,
      entryPath special segments pointer key =
        stem segments ++ ["v1".toList, "bigmaps".toList, forPointer, "keys".toList, forKey] ∧
      IsSegment forPointer ∧ IsSegment forKey ∧
      Percent.decode forPointer = Text.utf8 pointer ∧ Percent.decode forKey = Text.utf8 key) ↔
      segments ≠ [[], []] ∧ Whole pointer ∧ Whole key := by
  have htrunk := length_trunk_le segments
  have hfront := length_beforePointer segments
  have hbefore := length_beforeKey special segments pointer
  have hpointer : 1 < (beforePointer segments).length := by omega
  have hkey : 1 < (beforeKey special segments pointer).length := by omega
  rw [entryPath_eq]
  rcases push_cases special key hkey with ⟨hkey, hlength⟩ | ⟨K, hpush, hKsegment, hKdecode⟩
  · -- No segment stands for the key, so the path is too short.
    refine iff_of_false ?_ fun h => hkey h.2.2
    rintro ⟨P, K, heq, -⟩
    rw [heq] at hlength
    simp only [List.length_append, List.length_cons, List.length_nil] at hlength
    omega
  rw [hpush, ← trunk_eq_stem_iff, ← hKdecode, beforeKey]
  rcases push_cases special pointer hpointer with
    ⟨hpointer, hlength⟩ | ⟨P, hpush, hPsegment, hPdecode⟩
  · -- No segment stands for the pointer.
    refine iff_of_false ?_ fun h => hpointer h.2.1
    rintro ⟨P, K, heq, -⟩
    have htotal := congrArg List.length heq
    simp only [List.length_append, List.length_cons, List.length_nil] at htotal hlength
    omega
  rw [hpush, ← hPdecode, beforePointer]
  constructor
  · rintro ⟨P', K', heq, -, -, hP, hK⟩
    simp only [List.append_assoc, List.cons_append, List.nil_append] at heq
    obtain ⟨hstem, htail⟩ := List.append_inj' heq rfl
    simp only [List.cons.injEq, true_and, and_true] at htail
    obtain ⟨rfl, rfl⟩ := htail
    exact ⟨hstem, hP, hK⟩
  · rintro ⟨hstem, hP, hK⟩
    exact ⟨P, K, by simp [hstem], hPsegment, hKsegment, hP, hK⟩

theorem addresses_iff {base : Url} (h : base.path = .segments segments) :
    Addresses base pointer key { base with path := .segments (entryPath special segments pointer key) } ↔
      base.path ≠ .segments [[], []] ∧ Whole pointer ∧ Whole key := by
  have hroot : base.path ≠ .segments [[], []] ↔ segments ≠ [[], []] := by
    rw [h, ne_eq, UrlPath.segments.injEq]
  rw [hroot, ← @entryPath_iff special]
  constructor
  · rintro ⟨segments', P, K, hpath, hurl, hsegments⟩
    obtain rfl : segments = segments' := UrlPath.segments.inj (h.symm.trans hpath)
    exact ⟨P, K, UrlPath.segments.inj (congrArg Url.path hurl), hsegments⟩
  · rintro ⟨P, K, heq, hsegments⟩
    exact ⟨segments, P, K, h, by rw [heq], hsegments⟩

theorem entryPath_of_whole (hkey : Whole key) :
    entryPath special segments pointer key =
      beforeKey special segments pointer ++ [Percent.encode (segmentSet special) key] := by
  have hlength := length_beforeKey special segments pointer
  rw [entryPath_eq, push_behind hkey (ne_root_of_length (by omega))]

theorem chars_entryPath (hkey : Whole key) :
    UrlPath.chars (.segments (entryPath special segments pointer key)) =
      UrlPath.chars (.segments (beforeKey special segments pointer)) ++
        '/' :: Percent.encode (segmentSet special) key := by
  rw [entryPath_of_whole hkey]
  simp [UrlPath.chars]

theorem take_chars_entryPath (hkey : Whole key) :
    (UrlPath.chars (.segments (entryPath special segments pointer key))).take 2 =
      (UrlPath.chars (.segments (beforeKey special segments pointer))).take 2 := by
  rw [chars_entryPath hkey, List.take_append_of_le_length]
  simp [UrlPath.chars, beforeKey]

theorem eq_of_chars_entryPath_eq {other : List Char} (hkey : Whole key) (hother : Whole other)
    (h : UrlPath.chars (.segments (entryPath special segments pointer key)) =
      UrlPath.chars (.segments (entryPath special segments pointer other))) :
    key = other := by
  rw [chars_entryPath hkey, chars_entryPath hother] at h
  have hencode := (List.cons.inj (List.append_cancel_left h)).2
  have hdecode := congrArg Percent.decode hencode
  rw [Percent.decode_encode segmentSet_percent, Percent.decode_encode segmentSet_percent] at hdecode
  exact Text.utf8_injective hdecode

theorem chars_path_eq_of_text_eq {base : Url} {path path' : UrlPath}
    (hstart : (UrlPath.chars path).take 2 = (UrlPath.chars path').take 2)
    (h : ({ base with path } : Url).text = ({ base with path := path' } : Url).text) :
    UrlPath.chars path = UrlPath.chars path' := by
  have hchars := String.ofList_injective h
  simp only [chars, authorityChars, hstart] at hchars
  simpa using hchars

end Url

/-- Nothing of the key is lost in a segment. This concerns keys that are texts only. -/
def Key.IsWhole (key : Key) : Prop := ∀ s, key = .string s → Url.Whole s.toList

theorem Key.whole_requestText_iff {key : Key} : Url.Whole key.requestText.toList ↔ key.IsWhole := by
  by_cases htext : ∃ s, key = .string s
  · obtain ⟨s, rfl⟩ := htext
    constructor
    · intro h t ht
      injection ht with ht
      exact ht ▸ h
    · exact fun h => h s rfl
  · refine iff_of_true ?_ fun s hs => absurd ⟨s, hs⟩ htext
    obtain ⟨hplain, c, hc, hdot⟩ := plain_requestText fun s hs => htext ⟨s, hs⟩
    have hdots (n : Nat) : key.requestText.toList ≠ List.replicate n '.' :=
      fun heq => hdot (List.eq_of_mem_replicate (heq ▸ hc))
    refine ⟨fun c hc => ?_, hdots 1, hdots 2⟩
    have hcontrol := hplain c hc
    cases hdropped : Url.isDropped c with
    | false => rfl
    | true =>
      simp only [Url.isDropped, Bool.or_eq_true, beq_iff_eq] at hdropped
      rcases hdropped with (rfl | rfl) | rfl <;> exact absurd hcontrol (by decide)

namespace Indexer.Client

open Url

variable {settings : Settings} {client : Client} {pointer : String} {key other : Key}

theorem exists_segments (h : ofSettings settings = .ok client) :
    ∃ segments, client.base.path = .segments segments := by
  rw [ofSettings] at h
  split at h
  · contradiction
  · rename_i base _
    split at h
    · contradiction
    · rename_i segments hpath
      injection h with h
      exact ⟨segments, h ▸ hpath⟩

theorem entryUrl_eq {segments : List (List Char)} (h : client.base.path = .segments segments) :
    client.entryUrl pointer key = .ok { client.base with
      path := .segments (entryPath (isSpecial client.base.scheme) segments pointer.toList
        key.requestText.toList) } := by
  rw [entryUrl, extend?, h]
  rfl

/-- Texts from which the same is left without tabs and line ends have the same URL as keys. -/
theorem entryUrl_eq_of_kept_eq {s t : String} (hs : s.toList ≠ ['.'] ∧ s.toList ≠ ['.', '.'])
    (ht : t.toList ≠ ['.'] ∧ t.toList ≠ ['.', '.'])
    (h : s.toList.filter (fun c => !isDropped c) = t.toList.filter (fun c => !isDropped c)) :
    client.entryUrl pointer (.string s) = client.entryUrl pointer (.string t) := by
  have hpush (special : Bool) (segments : List (List Char)) :
      push special segments s.toList = push special segments t.toList := by
    rw [push, push, if_neg (not_or.2 hs), if_neg (not_or.2 ht), h]
  cases hpath : client.base.path with
  | rootless text => simp only [entryUrl, extend?, hpath]
  | segments segments =>
    simp only [entryUrl_eq hpath, entryPath_eq, Key.requestText, Key.isComposite, Key.canonical,
      Bool.false_eq_true, ↓reduceIte, hpush]

/-- A client has a URL for every entry, which differs from its base in the path alone. It is the base with
the entry's segments behind it, and pointer and key come back from them, if and only if both are whole and
the base is not a path of two slashes. Whole keys with different texts have different URLs. -/
theorem entryUrl_addresses (h : ofSettings settings = .ok client) (pointer : String) (key : Key) :
    ∃ url, client.entryUrl pointer key = .ok url ∧
      { url with path := client.base.path } = client.base ∧
      (Addresses client.base pointer.toList key.requestText.toList url ↔
        client.base.path ≠ .segments [[], []] ∧ Whole pointer.toList ∧ key.IsWhole) ∧
      (key.IsWhole → ∀ other otherUrl, other.IsWhole → client.entryUrl pointer other = .ok otherUrl →
        otherUrl.text = url.text → other.requestText = key.requestText) := by
  obtain ⟨segments, hpath⟩ := exists_segments h
  refine ⟨_, entryUrl_eq hpath, rfl, ?_, ?_⟩
  · rw [← Key.whole_requestText_iff]
    exact addresses_iff hpath
  · intro hkey other otherUrl hother hurl htext
    rw [entryUrl_eq hpath] at hurl
    injection hurl with hurl
    subst hurl
    rw [← Key.whole_requestText_iff] at hkey hother
    have hchars := chars_path_eq_of_text_eq
      ((take_chars_entryPath hother).trans (take_chars_entryPath hkey).symm) htext
    exact String.toList_inj.1 (eq_of_chars_entryPath_eq hother hkey hchars)

def ofDefaults : Client where
  base := {
    scheme := "https".toList, host := some (.domain "api.tzkt.io".toList), path := .segments [[]] }
  retries := 3

theorem ofSettings_default : ofSettings {} = .ok ofDefaults := rfl

theorem entryUrl_addresses_slash :
    ∃ url, ofDefaults.entryUrl "511" (.string "a/b") = .ok url ∧
      Addresses ofDefaults.base "511".toList "a/b".toList url := by
  obtain ⟨url, hurl, -, haddresses, -⟩ := entryUrl_addresses ofSettings_default "511" (.string "a/b")
  have hkey : Key.IsWhole (.string "a/b") := by
    intro s hs
    injection hs with hs
    exact hs ▸ by decide
  exact ⟨url, hurl, haddresses.2 ⟨by decide, by decide, hkey⟩⟩

/-- The tab of a key is lost: the key has the URL of another one, and does not come back from it. -/
theorem entryUrl_tab :
    ∃ url, ofSettings {} = .ok ofDefaults ∧ ofDefaults.entryUrl "511" (.string "x\ty") = .ok url ∧
      ofDefaults.entryUrl "511" (.string "xy") = .ok url ∧
      ¬ Addresses ofDefaults.base "511".toList "x\ty".toList url := by
  have hpath : ofDefaults.base.path = .segments [[]] := rfl
  refine ⟨_, ofSettings_default, entryUrl_eq hpath, ?_, fun h => ?_⟩
  · rw [← entryUrl_eq hpath]
    exact entryUrl_eq_of_kept_eq (by decide) (by decide) (by decide)
  · have hwhole := ((addresses_iff hpath).1 h).2.2
    exact absurd hwhole (by decide)

end Indexer.Client

end StorageQuery
