/-!
Tables that keep the order of first insertion. A table is a list of entries read under a test of
keys. Writing an entry whose key passes the test against a stored one replaces the value and keeps
the stored key and its place; otherwise the entry goes to the end. Keys stay pairwise different
(`distinct_insert`), and a look-up finds what was written last (`find?_insert`).
-/

set_option autoImplicit false

namespace StorageQuery

abbrev Table (κ ν : Type) := List (κ × ν)

namespace Table

variable {κ ν : Type}

def find? (same : κ → κ → Bool) (k : κ) : List (κ × ν) → Option ν
  | [] => none
  | (k', v) :: rest => if same k' k then some v else find? same k rest

def contains (same : κ → κ → Bool) (k : κ) (t : List (κ × ν)) : Bool := (find? same k t).isSome

def insert (same : κ → κ → Bool) (k : κ) (v : ν) : List (κ × ν) → List (κ × ν)
  | [] => [(k, v)]
  | (k', v') :: rest => if same k' k then (k', v) :: rest else (k', v') :: insert same k v rest

/-- Writes an entry and tells which value it replaces. -/
def exchange (same : κ → κ → Bool) (k : κ) (v : ν) : List (κ × ν) → Option ν × List (κ × ν)
  | [] => (none, [(k, v)])
  | (k', v') :: rest =>
    if same k' k then (some v', (k', v) :: rest)
    else
      let (old, rest) := exchange same k v rest
      (old, (k', v') :: rest)

def insertAll (same : κ → κ → Bool) : List (κ × ν) → List (κ × ν) → List (κ × ν)
  | t, [] => t
  | t, (k, v) :: rest => insertAll same (insert same k v t) rest

def ofList (same : κ → κ → Bool) (entries : List (κ × ν)) : List (κ × ν) := insertAll same [] entries

def keys (t : List (κ × ν)) : List κ := t.map Prod.fst

def Distinct (same : κ → κ → Bool) (t : List (κ × ν)) : Prop :=
  (keys t).Pairwise fun a b => same a b = false

@[simp] theorem find?_nil (same : κ → κ → Bool) (k : κ) : find? same k ([] : List (κ × ν)) = none := rfl

theorem find?_cons (same : κ → κ → Bool) (k k' : κ) (v : ν) (t : List (κ × ν)) :
    find? same k ((k', v) :: t) = if same k' k then some v else find? same k t := rfl

theorem find?_eq_none_iff {same : κ → κ → Bool} {k : κ} {t : List (κ × ν)} :
    find? same k t = none ↔ ∀ k' ∈ keys t, same k' k = false := by
  induction t with
  | nil => simp [keys]
  | cons e t ih =>
    obtain ⟨k', v⟩ := e
    cases h : same k' k <;> simp_all [find?, keys]

theorem contains_eq_true_iff {same : κ → κ → Bool} {k : κ} {t : List (κ × ν)} :
    contains same k t = true ↔ ∃ k' ∈ keys t, same k' k = true := by
  cases h : find? same k t with
  | none =>
    have h' := find?_eq_none_iff.1 h
    simp only [contains, h, Option.isSome_none, Bool.false_eq_true, false_iff]
    rintro ⟨k', hk', hs⟩
    simp [h' k' hk'] at hs
  | some v =>
    simp only [contains, h, Option.isSome_some, true_iff]
    refine Classical.byContradiction fun hn => ?_
    have : find? same k t = none := find?_eq_none_iff.2 fun k' hk' => by
      cases hs : same k' k with
      | false => rfl
      | true => exact absurd ⟨k', hk', hs⟩ hn
    simp [this] at h

theorem keys_insert (same : κ → κ → Bool) (k : κ) (v : ν) (t : List (κ × ν)) :
    keys (insert same k v t) = if contains same k t then keys t else keys t ++ [k] := by
  induction t with
  | nil => rfl
  | cons e t ih =>
    obtain ⟨k', v'⟩ := e
    cases h : same k' k with
    | true => simp [insert, contains, find?, keys, h]
    | false =>
      have : contains same k ((k', v') :: t) = contains same k t := by simp [contains, find?, h]
      rw [this]
      cases hc : contains same k t <;> simp_all [insert, keys]

theorem distinct_insert {same : κ → κ → Bool} {k : κ} {v : ν} {t : List (κ × ν)}
    (h : Distinct same t) : Distinct same (insert same k v t) := by
  unfold Distinct
  rw [keys_insert]
  cases hc : contains same k t with
  | true => simp only [↓reduceIte]; exact h
  | false =>
    have hn : find? same k t = none := by simpa [contains] using hc
    simp only [Bool.false_eq_true, ↓reduceIte, List.pairwise_append, List.mem_singleton]
    exact ⟨h, List.pairwise_singleton _ _, fun a ha b hb => hb ▸ find?_eq_none_iff.1 hn a ha⟩

theorem distinct_insertAll {same : κ → κ → Bool} (entries : List (κ × ν)) {t : List (κ × ν)}
    (h : Distinct same t) : Distinct same (insertAll same t entries) := by
  induction entries generalizing t with
  | nil => exact h
  | cons e rest ih => exact ih (distinct_insert h)

theorem distinct_ofList (same : κ → κ → Bool) (entries : List (κ × ν)) :
    Distinct same (ofList same entries) := distinct_insertAll entries List.Pairwise.nil

theorem forall_mem_insert {same : κ → κ → Bool} {P : κ → Prop} {Q : ν → Prop} {k : κ} {v : ν}
    {t : List (κ × ν)} (hk : P k) (hv : Q v) (h : ∀ e ∈ t, P e.1 ∧ Q e.2) :
    ∀ e ∈ insert same k v t, P e.1 ∧ Q e.2 := by
  induction t with
  | nil => simpa [insert] using ⟨hk, hv⟩
  | cons e t ih =>
    obtain ⟨k', v'⟩ := e
    obtain ⟨⟨hk', hv'⟩, ht⟩ := List.forall_mem_cons.1 h
    rw [insert]
    split
    · exact List.forall_mem_cons.2 ⟨⟨hk', hv⟩, ht⟩
    · exact List.forall_mem_cons.2 ⟨⟨hk', hv'⟩, ih ht⟩

theorem forall_mem_insertAll {same : κ → κ → Bool} {P : κ → Prop} {Q : ν → Prop}
    {entries t : List (κ × ν)} (ht : ∀ e ∈ t, P e.1 ∧ Q e.2) (h : ∀ e ∈ entries, P e.1 ∧ Q e.2) :
    ∀ e ∈ insertAll same t entries, P e.1 ∧ Q e.2 := by
  induction entries generalizing t with
  | nil => exact ht
  | cons e rest ih =>
    obtain ⟨he, hrest⟩ := List.forall_mem_cons.1 h
    exact ih (forall_mem_insert he.1 he.2 ht) hrest

theorem forall_mem_ofList {same : κ → κ → Bool} {P : κ → Prop} {Q : ν → Prop} {entries : List (κ × ν)}
    (h : ∀ e ∈ entries, P e.1 ∧ Q e.2) : ∀ e ∈ ofList same entries, P e.1 ∧ Q e.2 :=
  forall_mem_insertAll (List.forall_mem_nil _) h

theorem insert_of_find?_eq_none {same : κ → κ → Bool} {k : κ} {t : List (κ × ν)}
    (h : find? same k t = none) (v : ν) : insert same k v t = t ++ [(k, v)] := by
  induction t with
  | nil => rfl
  | cons e t ih =>
    obtain ⟨k', v'⟩ := e
    rw [find?_cons] at h
    cases hs : same k' k with
    | true => simp [hs] at h
    | false => simp [insert, hs, ih (by simpa [hs] using h)]

theorem insertAll_of_distinct {same : κ → κ → Bool} {t entries : List (κ × ν)}
    (h : Distinct same (t ++ entries)) : insertAll same t entries = t ++ entries := by
  induction entries generalizing t with
  | nil => simp [insertAll]
  | cons e rest ih =>
    obtain ⟨k, v⟩ := e
    have hnew : find? same k t = none := find?_eq_none_iff.2 fun k' hk' => by
      simp only [Distinct, keys, List.map_append, List.map_cons] at h
      exact (List.pairwise_append.1 h).2.2 k' hk' k List.mem_cons_self
    rw [insertAll, insert_of_find?_eq_none hnew, ih (by simpa using h)]
    simp

theorem ofList_of_distinct {same : κ → κ → Bool} {entries : List (κ × ν)} (h : Distinct same entries) :
    ofList same entries = entries := insertAll_of_distinct h

theorem mem_of_find? {same : κ → κ → Bool} {k : κ} {v : ν} {t : List (κ × ν)}
    (h : find? same k t = some v) : ∃ k', same k' k = true ∧ (k', v) ∈ t := by
  induction t with
  | nil => cases h
  | cons e t ih =>
    obtain ⟨k', v'⟩ := e
    rw [find?_cons] at h
    cases hs : same k' k with
    | true =>
      simp only [hs, ↓reduceIte, Option.some.injEq] at h
      exact ⟨k', hs, h ▸ List.mem_cons_self⟩
    | false =>
      obtain ⟨k'', hk'', hm⟩ := ih (by simpa [hs] using h)
      exact ⟨k'', hk'', List.mem_cons_of_mem _ hm⟩

theorem find?_eq_some_iff_mem [BEq κ] [LawfulBEq κ] {k : κ} {v : ν} {t : List (κ × ν)}
    (hd : Distinct (· == ·) t) : find? (· == ·) k t = some v ↔ (k, v) ∈ t := by
  constructor
  · intro h
    obtain ⟨k', hk', hm⟩ := mem_of_find? h
    exact eq_of_beq hk' ▸ hm
  · intro hm
    induction t with
    | nil => cases hm
    | cons e t ih =>
      obtain ⟨k', v'⟩ := e
      obtain ⟨hfirst, hrest⟩ := List.pairwise_cons.1 hd
      rcases List.mem_cons.1 hm with heq | hm
      · cases heq
        simp [find?_cons]
      · have hne : (k' == k) = false := hfirst k (List.mem_map_of_mem hm)
        simp only [find?_cons, hne, Bool.false_eq_true, ↓reduceIte]
        exact ih hrest hm

theorem exchange_eq (same : κ → κ → Bool) (k : κ) (v : ν) (t : List (κ × ν)) :
    exchange same k v t = (find? same k t, insert same k v t) := by
  induction t with
  | nil => rfl
  | cons e t ih =>
    obtain ⟨k', v'⟩ := e
    cases h : same k' k <;> simp [exchange, find?, insert, h, ih]

theorem nodup_keys [BEq κ] [LawfulBEq κ] {t : List (κ × ν)} (hd : Distinct (· == ·) t) : (keys t).Nodup :=
  hd.imp fun hne heq => by simp [heq] at hne

end Table

end StorageQuery
