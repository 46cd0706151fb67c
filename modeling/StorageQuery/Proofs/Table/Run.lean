import Mathlib.Data.Set.Card
import StorageQuery.Table
/-!
Tables after a run of insertions. Where the test of keys is an equivalence, there is one entry for each class
of keys that were written: in the order in which the classes came up, under the key that came first, and with
the value that came last.
-/

set_option autoImplicit false

namespace StorageQuery.Table

/-- Among the keys with a property the test is an equivalence. -/
structure Lawful {κ : Type} (same : κ → κ → Bool) (P : κ → Prop) : Prop where
  refl {k : κ} : P k → same k k = true
  symm {k l : κ} : P k → P l → same k l = true → same l k = true
  trans {k l m : κ} : P k → P l → P m → same k l = true → same l m = true → same k m = true

section
variable {κ ν : Type} {same : κ → κ → Bool} {P : κ → Prop} {run t : List (κ × ν)} {k l : κ} {v : ν}

theorem Lawful.comm (h : Lawful same P) (hk : P k) (hl : P l) : same k l = same l k :=
  Bool.eq_iff_iff.2 ⟨h.symm hk hl, h.symm hl hk⟩

theorem lawful_beq {κ : Type} [BEq κ] [LawfulBEq κ] : Lawful (· == ·) fun _ : κ => True where
  refl _ := beq_self_eq_true _
  symm _ _ h := by rw [beq_iff_eq] at h ⊢; exact h.symm
  trans _ _ _ h h' := by rw [beq_iff_eq] at h h' ⊢; exact h.trans h'

theorem Lawful.congr (h : Lawful same P) {m : κ} (hk : P k) (hl : P l) (hm : P m)
    (hkl : same k l = true) : same k m = same l m :=
  Bool.eq_iff_iff.2 ⟨h.trans hl hk hm (h.symm hk hl hkl), h.trans hk hl hm hkl⟩

theorem Lawful.pairwise_keys (h : Lawful same P) (hd : Distinct same t) (ht : ∀ e ∈ t, P e.1) :
    (keys t).Pairwise fun k l => same k l = false ∧ same l k = false := by
  refine hd.imp_of_mem fun hk hl hkl => ⟨hkl, ?_⟩
  obtain ⟨e, he, rfl⟩ := List.mem_map.1 hk
  obtain ⟨e', he', rfl⟩ := List.mem_map.1 hl
  rwa [h.comm (ht e' he') (ht e he)]

theorem insertAll_append (t run more : List (κ × ν)) :
    insertAll same t (run ++ more) = insertAll same (insertAll same t run) more := by
  induction run generalizing t with
  | nil => rfl
  | cons e run ih => exact ih _

theorem ofList_concat (run : List (κ × ν)) (k : κ) (v : ν) :
    ofList same (run ++ [(k, v)]) = insert same k v (ofList same run) :=
  insertAll_append [] run [(k, v)]

theorem insert_map_values {ω : Type} (same : κ → κ → Bool) (f : ν → ω) (k : κ) (v : ν) (t : List (κ × ν)) :
    insert same k (f v) (t.map fun (k, v) => (k, f v)) = (insert same k v t).map fun (k, v) => (k, f v) := by
  induction t with
  | nil => rfl
  | cons e t ih =>
    simp only [List.map_cons, insert, ih]
    split <;> rfl

theorem ofList_map_values {ω : Type} (same : κ → κ → Bool) (f : ν → ω) (run : List (κ × ν)) :
    ofList same (run.map fun (k, v) => (k, f v)) = (ofList same run).map fun (k, v) => (k, f v) := by
  suffices h : ∀ t, insertAll same (t.map fun (k, v) => (k, f v)) (run.map fun (k, v) => (k, f v)) =
      (insertAll same t run).map fun (k, v) => (k, f v) from h []
  induction run with
  | nil => exact fun t => rfl
  | cons e run ih =>
    intro t
    rw [List.map_cons, insertAll, insertAll, insert_map_values, ih]

theorem forall_mem_keys_ofList (hrun : ∀ e ∈ run, P e.1) : ∀ e ∈ ofList same run, P e.1 := fun e he =>
  (forall_mem_ofList (Q := fun _ => True) (fun e he => ⟨hrun e he, trivial⟩) e he).1

theorem find?_eq_head? (same : κ → κ → Bool) (k : κ) (t : List (κ × ν)) :
    find? same k t = ((t.filter fun e => same e.1 k).head?).map Prod.snd := by
  induction t with
  | nil => rfl
  | cons e t ih =>
    obtain ⟨k', v⟩ := e
    rw [find?_cons]
    cases hs : same k' k <;> simp [hs, ih]

theorem find?_insert (h : Lawful same P) (hk : P k) (hl : P l) (ht : ∀ e ∈ t, P e.1) (v : ν) :
    find? same l (insert same k v t) = if same k l then some v else find? same l t := by
  induction t with
  | nil => rfl
  | cons e t ih =>
    obtain ⟨k', v'⟩ := e
    obtain ⟨hk', ht⟩ := List.forall_mem_cons.1 ht
    rw [insert]
    cases hs : same k' k with
    | true =>
      simp only [↓reduceIte, find?_cons, h.congr hk' hk hl hs]
      split <;> rfl
    | false =>
      simp only [Bool.false_eq_true, ↓reduceIte, find?_cons, ih ht]
      cases hl' : same k' l with
      | false => rfl
      | true =>
        -- the stored key is of the class of `l`, and so not of that of `k`
        have hkl : same k l = false := by rw [h.comm hk hl, ← h.congr hk' hl hk hl', hs]
        simp [hkl]

theorem find?_insert_self [BEq κ] [LawfulBEq κ] (k : κ) (v : ν) (t : List (κ × ν)) :
    find? (· == ·) k (insert (· == ·) k v t) = some v := by
  rw [find?_insert lawful_beq trivial trivial fun _ _ => trivial, if_pos (beq_self_eq_true k)]

theorem find?_insert_of_ne [BEq κ] [LawfulBEq κ] (h : k ≠ l) (v : ν) (t : List (κ × ν)) :
    find? (· == ·) l (insert (· == ·) k v t) = find? (· == ·) l t := by
  rw [find?_insert lawful_beq trivial trivial fun _ _ => trivial, if_neg (by simpa using h)]

/-- A key stands for what was written last under a key of its class. -/
theorem find?_ofList (h : Lawful same P) (hrun : ∀ e ∈ run, P e.1) (hk : P k) :
    find? same k (ofList same run) =
      ((run.filter fun e => same e.1 k).getLast?).map Prod.snd := by
  induction run using List.reverseRecOn with
  | nil => rfl
  | append_singleton run e ih =>
    obtain ⟨l, v⟩ := e
    obtain ⟨hbefore, hlast⟩ := List.forall_mem_append.1 hrun
    have hl : P l := hlast _ (List.mem_singleton_self _)
    rw [ofList_concat, find?_insert h hl hk (forall_mem_keys_ofList hbefore), List.filter_append,
      ih hbefore]
    cases hs : same l k <;> simp [hs]

theorem contains_ofList (h : Lawful same P) (hrun : ∀ e ∈ run, P e.1) (hk : P k) :
    contains same k (ofList same run) = (keys run).any fun l => same l k := by
  rw [contains, find?_ofList h hrun hk, Bool.eq_iff_iff]
  simp [keys, Option.isSome_iff_ne_none]

theorem loop_concat (as : List κ) (a : κ) (done : List κ) :
    List.eraseDupsBy.loop same (as ++ [a]) done =
      if (List.eraseDupsBy.loop same as done).any (same a) then List.eraseDupsBy.loop same as done
      else List.eraseDupsBy.loop same as done ++ [a] := by
  induction as generalizing done with
  | nil => cases hd : done.any (same a) <;> simp [List.eraseDupsBy.loop, hd]
  | cons b as ih =>
    rw [List.cons_append, List.eraseDupsBy.loop, List.eraseDupsBy.loop]
    cases done.any (same b) <;> exact ih _

theorem eraseDupsBy_concat (as : List κ) (a : κ) :
    (as ++ [a]).eraseDupsBy same =
      if (as.eraseDupsBy same).any (same a) then as.eraseDupsBy same else as.eraseDupsBy same ++ [a] :=
  loop_concat as a []

/-- Classes stand in the order in which they came up, each under its first key. -/
theorem keys_ofList (h : Lawful same P) (hrun : ∀ e ∈ run, P e.1) :
    keys (ofList same run) = (keys run).eraseDupsBy same := by
  induction run using List.reverseRecOn with
  | nil => rfl
  | append_singleton run e ih =>
    obtain ⟨k, v⟩ := e
    obtain ⟨hbefore, hlast⟩ := List.forall_mem_append.1 hrun
    have hk : P k := hlast _ (List.mem_singleton_self _)
    have htest : contains same k (ofList same run) = (keys (ofList same run)).any (same k) := by
      rw [Bool.eq_iff_iff, contains_eq_true_iff, List.any_eq_true]
      refine exists_congr fun l => and_congr_right fun hl => ?_
      obtain ⟨e, he, rfl⟩ := List.mem_map.1 hl
      rw [h.comm hk (forall_mem_keys_ofList hbefore e he)]
    have hkeys : keys (run ++ [(k, v)]) = keys run ++ [k] := by simp [keys]
    rw [ofList_concat, keys_insert, htest, ih hbefore, hkeys, eraseDupsBy_concat]

theorem head?_of_mem_keys (h : Lawful same P) (hrun : ∀ e ∈ run, P e.1)
    (hk : k ∈ keys (ofList same run)) :
    ((run.filter fun e => same e.1 k).head?).map Prod.fst = some k := by
  induction run using List.reverseRecOn with
  | nil => cases hk
  | append_singleton run e ih =>
    obtain ⟨l, v⟩ := e
    obtain ⟨hbefore, hlast⟩ := List.forall_mem_append.1 hrun
    have hl : P l := hlast _ (List.mem_singleton_self _)
    rw [ofList_concat, keys_insert] at hk
    rw [List.filter_append, List.head?_append]
    have hstored (hk : k ∈ keys (ofList same run)) :
        (((run.filter fun e => same e.1 k).head?).or
          (([(l, v)].filter fun e => same e.1 k).head?)).map Prod.fst = some k := by
      obtain ⟨e, he, hek⟩ := Option.map_eq_some_iff.1 (ih hbefore hk)
      rw [he, Option.some_or, Option.map_some, hek]
    split at hk
    · exact hstored hk
    · rename_i hnew
      rcases List.mem_append.1 hk with hk | hk
      · exact hstored hk
      · -- a new class: no key of the run is of it
        obtain rfl := List.mem_singleton.1 hk
        rw [contains_ofList h hbefore hl, List.any_eq_true] at hnew
        have hnil : (run.filter fun e => same e.1 k) = [] :=
          List.filter_eq_nil_iff.2 fun e he hs => hnew ⟨e.1, List.mem_map_of_mem he, hs⟩
        simp [hnil, h.refl hl]

theorem find?_eq_some_of_mem (h : Lawful same P) (hd : Distinct same t) (ht : ∀ e ∈ t, P e.1)
    (hl : P l) (hm : (k, v) ∈ t) (hkl : same k l = true) : find? same l t = some v := by
  induction t with
  | nil => cases hm
  | cons e t ih =>
    obtain ⟨k', v'⟩ := e
    obtain ⟨hk', ht⟩ := List.forall_mem_cons.1 ht
    obtain ⟨hfirst, hrest⟩ := List.pairwise_cons.1 hd
    rw [find?_cons]
    rcases List.mem_cons.1 hm with heq | hm
    · obtain ⟨rfl, rfl⟩ := Prod.mk.inj heq
      rw [hkl, if_pos rfl]
    · have hk : P k := ht _ hm
      have hne : same k' l = false := by
        rw [h.comm hk' hl, ← h.congr hk hl hk' hkl, h.comm hk hk']
        exact hfirst k (List.mem_map_of_mem hm)
      rw [hne, if_neg Bool.false_ne_true]
      exact ih hrest ht hm

theorem filterMap_keys (h : Lawful same P) (hd : Distinct same t) (ht : ∀ e ∈ t, P e.1) :
    (keys t).filterMap (fun k => (find? same k t).map fun v => (k, v)) = t := by
  have hentry : ∀ e ∈ t, (find? same e.1 t).map (fun v => (e.1, v)) = some e := fun e he => by
    rw [find?_eq_some_of_mem h hd ht (ht e he) he (h.refl (ht e he)), Option.map_some]
  rw [keys, List.filterMap_map]
  calc
    _ = t.filterMap some := List.filterMap_congr hentry
    _ = t := List.filterMap_some

def kin (same : κ → κ → Bool) (P : κ → Prop) (k : κ) : Set κ := {l | P l ∧ same k l = true}

theorem kin_eq_iff (h : Lawful same P) (hk : P k) (hl : P l) :
    kin same P k = kin same P l ↔ same k l = true := by
  constructor
  · intro heq
    have hm : l ∈ kin same P k := heq ▸ ⟨hl, h.refl hl⟩
    exact hm.2
  · intro hkl
    ext m
    exact and_congr_right fun hm => by rw [h.congr hk hl hm hkl]

/-- There are as many entries as classes of keys that were written. -/
theorem length_ofList (h : Lawful same P) (hrun : ∀ e ∈ run, P e.1) :
    (ofList same run).length = (kin same P '' {k | k ∈ keys run}).ncard := by
  have hstored : ∀ k ∈ keys (ofList same run), P k := fun k hk => by
    obtain ⟨e, he, rfl⟩ := List.mem_map.1 hk
    exact forall_mem_keys_ofList hrun e he
  have hwritten : ∀ k ∈ keys run, P k := fun k hk => by
    obtain ⟨e, he, rfl⟩ := List.mem_map.1 hk
    exact hrun e he
  -- the classes that were written are those that are stored, and these are different from one another
  have himage : kin same P '' {k | k ∈ keys run} = {c | c ∈ (keys (ofList same run)).map (kin same P)} := by
    ext c
    simp only [Set.mem_image, Set.mem_ofPred_eq, List.mem_map]
    constructor
    · rintro ⟨k, hk, rfl⟩
      have hc : contains same k (ofList same run) = true := by
        rw [contains_ofList h hrun (hwritten k hk), List.any_eq_true]
        exact ⟨k, hk, h.refl (hwritten k hk)⟩
      obtain ⟨l, hl, hlk⟩ := contains_eq_true_iff.1 hc
      exact ⟨l, hl, (kin_eq_iff h (hstored l hl) (hwritten k hk)).2 hlk⟩
    · rintro ⟨k, hk, rfl⟩
      obtain ⟨e, he, hek⟩ := Option.map_eq_some_iff.1 (head?_of_mem_keys h hrun hk)
      have hmem := (List.mem_filter.1 (List.mem_of_head? he)).1
      exact ⟨k, hek ▸ List.mem_map_of_mem hmem, rfl⟩
  have hnodup : ((keys (ofList same run)).map (kin same P)).Nodup := by
    rw [List.Nodup, List.pairwise_map]
    refine (distinct_ofList same run).imp_of_mem fun hk hl hkl heq => ?_
    rw [(kin_eq_iff h (hstored _ hk) (hstored _ hl)).1 heq] at hkl
    cases hkl
  classical
  rw [himage, ← List.coe_toFinset, Set.ncard_coe_finset, List.toFinset_card_of_nodup hnodup]
  simp [keys]

end

end StorageQuery.Table
