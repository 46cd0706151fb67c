import StorageQuery.Proofs.Answer.Site
/-!
When the sites of an evaluation begin and are done: a site begins when all look-ups around it are done,
at once if there are none, and takes as long as its own look-up. Siblings do not count.
-/

set_option autoImplicit false

namespace StorageQuery

def encloses (outer inner : Position) : Bool := decide (outer <+: inner ∧ outer ≠ inner)

@[simp] theorem encloses_cons (i : Nat) (p q : Position) :
    encloses (i :: p) (i :: q) = encloses p q := by
  simp [encloses]

theorem encloses_of_ne {i j : Nat} (h : i ≠ j) (p q : Position) :
    encloses (i :: p) (j :: q) = false := by
  simp [encloses, h]

def LookUp.delay (delays : Delays) (lookUp : LookUp) : Nat :=
  delays lookUp.position lookUp.pointer lookUp.key

def LookUp.taken (delays : Delays) (lookUps : List LookUp) : Nat :=
  lookUps.foldr (fun lookUp time => lookUp.delay delays + time) 0

def LookUp.enclosing (lookUps : List LookUp) (position : Position) : List LookUp :=
  lookUps.filter fun lookUp => encloses lookUp.position position

def LookUp.last (now : Nat) (lookUps : List LookUp) : Nat :=
  lookUps.foldr (fun lookUp => max lookUp.finish) now

namespace LookUp

theorem le_last (now : Nat) (lookUps : List LookUp) : now ≤ last now lookUps := by
  induction lookUps with
  | nil => exact Nat.le_refl now
  | cons lookUp rest ih => exact Nat.le_trans ih (Nat.le_max_right ..)

theorem last_append (now : Nat) (left right : List LookUp) :
    last now (left ++ right) = max (last now left) (last now right) := by
  induction left with
  | nil => exact (Nat.max_eq_right (le_last now right)).symm
  | cons lookUp rest ih =>
    simp only [last, List.cons_append, List.foldr_cons] at ih ⊢
    rw [ih, Nat.max_assoc]

theorem last_of_le {now later : Nat} (h : now ≤ later) (lookUps : List LookUp) :
    last later lookUps = max later (last now lookUps) := by
  induction lookUps with
  | nil => exact (Nat.max_eq_left h).symm
  | cons lookUp rest ih =>
    simp only [last, List.foldr_cons] at ih ⊢
    rw [ih]
    omega

end LookUp

namespace Site

def delay (delays : Delays) (site : Site) : Nat :=
  match site.lookUp? with
  | some lookUp => lookUp.delay delays
  | none => 0

def taken (delays : Delays) (sites : List Site) : Nat := LookUp.taken delays (sites.filterMap lookUp?)

def enclosing (sites : List Site) (position : Position) : List Site :=
  sites.filter fun site => encloses site.position position

def last (now : Nat) (sites : List Site) : Nat := LookUp.last now (sites.filterMap lookUp?)

@[simp] theorem last_nil (now : Nat) : last now [] = now := rfl

@[simp] theorem last_append (now : Nat) (left right : List Site) :
    last now (left ++ right) = max (last now left) (last now right) := by
  rw [last, List.filterMap_append, LookUp.last_append, last, last]

@[simp] theorem last_under (now i : Nat) (sites : List Site) :
    last now (sites.map (under i)) = last now sites := by
  induction sites with
  | nil => rfl
  | cons site rest ih =>
    obtain ⟨position, start, finish, asked⟩ := site
    cases asked with
    | value value => exact ih
    | key container request =>
      cases container with
      | bigMap handle => exact congrArg (max finish) ih
      | _ => exact ih

theorem le_lookedUp (delays : Delays) (now : Nat) (container : Storage) (key : Key) :
    now ≤ lookedUp delays now container key := by
  cases container <;> simp [lookedUp]

theorem last_key (delays : Delays) (now : Nat) (container : Storage) (request : Request) :
    last now [⟨[], now, lookedUp delays now container request.key, .key container request⟩] =
      lookedUp delays now container request.key := by
  cases container with
  | bigMap handle => exact Nat.max_eq_left (Nat.le_add_right ..)
  | _ => rfl

@[simp] theorem position_under (i : Nat) (site : Site) :
    (site.under i).position = i :: site.position := rfl

theorem delay_under (delays : Delays) (i : Nat) (site : Site) :
    (site.under i).delay delays = site.delay (delays.below i) := by
  obtain ⟨position, start, finish, asked⟩ := site
  cases asked with
  | value value => rfl
  | key container request => cases container <;> rfl

theorem taken_cons (delays : Delays) (site : Site) (rest : List Site) :
    taken delays (site :: rest) = site.delay delays + taken delays rest := by
  cases h : site.lookUp? <;> simp [taken, LookUp.taken, delay, h]

theorem taken_under (delays : Delays) (i : Nat) (sites : List Site) :
    taken delays (sites.map (under i)) = taken (delays.below i) sites := by
  induction sites with
  | nil => rfl
  | cons site rest ih => rw [List.map_cons, taken_cons, taken_cons, ih, delay_under]

theorem enclosing_append (left right : List Site) (position : Position) :
    enclosing (left ++ right) position = enclosing left position ++ enclosing right position :=
  List.filter_append ..

theorem enclosing_under (i : Nat) (sites : List Site) (position : Position) :
    enclosing (sites.map (under i)) (i :: position) = (enclosing sites position).map (under i) := by
  have h : (fun site : Site => encloses site.position (i :: position)) ∘ under i =
      fun site => encloses site.position position := funext fun site => encloses_cons ..
  rw [enclosing, List.filter_map, h, enclosing]

theorem enclosing_eq_nil {sites : List Site} {position : Position}
    (h : ∀ site ∈ sites, encloses site.position position = false) : enclosing sites position = [] := by
  simpa [enclosing, List.filter_eq_nil_iff] using h

theorem filterMap_enclosing (sites : List Site) (position : Position) :
    (enclosing sites position).filterMap lookUp? =
      LookUp.enclosing (sites.filterMap lookUp?) position := by
  induction sites with
  | nil => rfl
  | cons site rest ih =>
    simp only [enclosing, LookUp.enclosing, List.filter_cons] at ih ⊢
    cases hl : site.lookUp? with
    | none => split <;> simp [hl, ih]
    | some lookUp =>
      obtain ⟨hp, -⟩ := position_lookUp? hl
      split <;> simp_all

/-- The sites come in the order of their positions. Each begins when the look-ups around it are over, which
is when they have taken their times one after the other. -/
structure Laid (delays : Delays) (now : Nat) (sites : List Site) : Prop where
  ordered : sites.Pairwise fun a b => a.position < b.position
  waits : ∀ site ∈ sites, site.start = last now (enclosing sites site.position)
  start : ∀ site ∈ sites, site.start = now + taken delays (enclosing sites site.position)
  finish : ∀ site ∈ sites, site.finish = site.start + site.delay delays

section
variable {delays : Delays} {now i : Nat}

theorem laid_nil : Laid delays now [] :=
  ⟨.nil, by simp, by simp, by simp⟩

theorem enclosing_first {first rest : List Site}
    (hlater : ∀ site ∈ rest, ∃ j p, site.position = j :: p ∧ i < j) (position : Position) :
    enclosing (first.map (under i) ++ rest) (i :: position) = (enclosing first position).map (under i) := by
  have hnone : enclosing rest (i :: position) = [] := enclosing_eq_nil fun site h => by
    obtain ⟨j, p, hp, hlt⟩ := hlater site h
    rw [hp, encloses_of_ne (Nat.ne_of_gt hlt)]
  rw [enclosing_append, hnone, List.append_nil, enclosing_under]

theorem enclosing_later {first rest : List Site} {j : Nat} (hlt : i < j) (position : Position) :
    enclosing (first.map (under i) ++ rest) (j :: position) = enclosing rest (j :: position) := by
  have hnone : enclosing (first.map (under i)) (j :: position) = [] := enclosing_eq_nil fun site h => by
    obtain ⟨site, -, rfl⟩ := List.mem_map.1 h
    exact encloses_of_ne (Nat.ne_of_lt hlt) _ _
  rw [enclosing_append, hnone, List.nil_append]

theorem laid_siblings {first rest : List Site} (hf : Laid (delays.below i) now first)
    (hr : Laid delays now rest) (hlater : ∀ site ∈ rest, ∃ j p, site.position = j :: p ∧ i < j) :
    Laid delays now (first.map (under i) ++ rest) where
  ordered := by
    refine List.pairwise_append.2 ⟨?_, hr.ordered, ?_⟩
    · rw [List.pairwise_map]
      exact hf.ordered.imp fun h => List.cons_lt_cons_self.2 h
    · intro a ha b hb
      obtain ⟨a, -, rfl⟩ := List.mem_map.1 ha
      obtain ⟨j, p, hp, hlt⟩ := hlater b hb
      rw [hp]
      exact List.cons_lt_cons_iff.2 (.inl hlt)
  waits := by
    intro site hsite
    rcases List.mem_append.1 hsite with h | h
    · obtain ⟨site, hs, rfl⟩ := List.mem_map.1 h
      rw [position_under, enclosing_first hlater, last_under]
      exact hf.waits site hs
    · obtain ⟨j, p, hp, hlt⟩ := hlater site h
      rw [hp, enclosing_later hlt, ← hp]
      exact hr.waits site h
  start := by
    intro site hsite
    rcases List.mem_append.1 hsite with h | h
    · obtain ⟨site, hs, rfl⟩ := List.mem_map.1 h
      rw [position_under, enclosing_first hlater, taken_under]
      exact hf.start site hs
    · obtain ⟨j, p, hp, hlt⟩ := hlater site h
      rw [hp, enclosing_later hlt, ← hp]
      exact hr.start site h
  finish := by
    intro site hsite
    rcases List.mem_append.1 hsite with h | h
    · obtain ⟨site, hs, rfl⟩ := List.mem_map.1 h
      rw [delay_under]
      exact hf.finish site hs
    · exact hr.finish site h

theorem last_singleton {site : Site} (hs : site.start = now)
    (hf : site.finish = site.start + site.delay delays) : last now [site] = site.finish := by
  cases h : site.lookUp? with
  | none => simp [last, LookUp.last, h, delay, hs, hf]
  | some lookUp =>
    obtain ⟨-, -, hfin⟩ := position_lookUp? h
    simp [last, LookUp.last, h, hfin, hf, hs]

theorem laid_cons {outer : Site} {inner : List Site} (hp : outer.position = [])
    (hs : outer.start = now) (hf : outer.finish = outer.start + outer.delay delays)
    (hi : Laid delays outer.finish inner) (hlater : ∀ site ∈ inner, site.position ≠ []) :
    Laid delays now (outer :: inner) := by
  have hfirst : enclosing (outer :: inner) outer.position = [] :=
    enclosing_eq_nil fun other _ => by simp [encloses, hp]
  -- the outer site stands around all others
  have hinner : ∀ site ∈ inner,
      enclosing (outer :: inner) site.position = outer :: enclosing inner site.position := by
    intro site h
    have hout : encloses outer.position site.position = true := by
      simp [encloses, hp, (hlater site h).symm]
    simp [enclosing, hout]
  refine ⟨List.pairwise_cons.2 ⟨fun site h => ?_, hi.ordered⟩, fun site h => ?_, fun site h => ?_,
    fun site h => ?_⟩
  · obtain ⟨j, p, hj⟩ := List.exists_cons_of_ne_nil (hlater site h)
    rw [hp, hj]
    exact List.nil_lt_cons ..
  · rcases List.mem_cons.1 h with rfl | h
    · rw [hfirst, hs, last_nil]
    · have hle : now ≤ outer.finish := by omega
      rw [hinner site h, ← List.singleton_append, last_append, last_singleton hs hf, hi.waits site h]
      exact LookUp.last_of_le hle _
  · rcases List.mem_cons.1 h with rfl | h
    · rw [hfirst, hs]
      rfl
    · have hstart := hi.start site h
      rw [hinner site h, taken_cons]
      omega
  · rcases List.mem_cons.1 h with rfl | h
    · exact hf
    · exact hi.finish site h

end

section
variable (contents : Contents)

theorem position_level (delays : Delays) (now : Nat) (root : Storage) (i : Nat)
    (selectors : List Selector) :
    ∀ site ∈ level contents delays now root i selectors, ∃ j p, site.position = j :: p ∧ i ≤ j := by
  induction selectors generalizing i with
  | nil => simp [level]
  | cons selector rest ih =>
    intro site h
    cases hb : selector.isBlank with
    | true =>
      rw [level, if_pos hb] at h
      exact ih i site h
    | false =>
      rw [level, if_neg (by simp [hb])] at h
      rcases List.mem_append.1 h with h | h
      · obtain ⟨site, -, rfl⟩ := List.mem_map.1 h
        exact ⟨i, site.position, rfl, Nat.le_refl i⟩
      · obtain ⟨j, p, hp, hle⟩ := ih (i + 1) site h
        exact ⟨j, p, hp, Nat.le_of_succ_le hle⟩

theorem position_rows (delays : Delays) (now : Nat) (container : Storage) (i : Nat)
    (requests : List Request) :
    ∀ site ∈ rows contents delays now container i requests, ∃ j p, site.position = j :: p ∧ i ≤ j := by
  induction requests generalizing i with
  | nil => simp [rows]
  | cons request rest ih =>
    intro site h
    rw [rows] at h
    rcases List.mem_append.1 h with h | h
    · obtain ⟨site, -, rfl⟩ := List.mem_map.1 h
      exact ⟨i, site.position, rfl, Nat.le_refl i⟩
    · obtain ⟨j, p, hp, hle⟩ := ih (i + 1) site h
      exact ⟨j, p, hp, Nat.le_of_succ_le hle⟩

theorem lookedUp_eq (delays : Delays) (now : Nat) (container : Storage) (request : Request) :
    lookedUp delays now container request.key = now + delay delays
      ⟨[], now, lookedUp delays now container request.key, .key container request⟩ := by
  cases container <;> rfl

mutual
theorem laid_level (delays : Delays) (now : Nat) (root : Storage) (i : Nat) :
    (selectors : List Selector) → Laid delays now (level contents delays now root i selectors)
  | [] => laid_nil
  | selector :: rest => by
    rw [level]
    split
    · exact laid_level delays now root i rest
    · exact laid_siblings (laid_field (delays.below i) now root selector)
        (laid_level delays now root (i + 1) rest) (position_level contents delays now root (i + 1) rest)
theorem laid_field (delays : Delays) (now : Nat) (root : Storage) :
    (selector : Selector) → Laid delays now (field contents delays now root selector)
  | .path path => by
    rw [field]
    split
    · exact laid_nil
    · exact laid_cons rfl rfl rfl laid_nil (by simp)
  | .keys name requests => by
    rw [field]
    split
    · exact laid_nil
    · rename_i value _
      split
      · exact laid_rows delays now value 0 requests
      · exact laid_nil
theorem laid_rows (delays : Delays) (now : Nat) (container : Storage) (i : Nat) :
    (requests : List Request) → Laid delays now (rows contents delays now container i requests)
  | [] => laid_nil
  | request :: rest =>
    laid_siblings (laid_row (delays.below i) now container request)
      (laid_rows delays now container (i + 1) rest)
      (position_rows contents delays now container (i + 1) rest)
theorem laid_row (delays : Delays) (now : Nat) (container : Storage) :
    (request : Request) → Laid delays now (row contents delays now container request)
  | .whole key => laid_cons rfl rfl (lookedUp_eq delays now container (.whole key)) laid_nil (by simp)
  | .within key selectors => by
    rw [row]
    refine laid_cons rfl rfl (lookedUp_eq delays now container (.within key selectors)) ?_ ?_
    · split
      · rename_i found _
        exact laid_level delays _ found 0 selectors
      · exact laid_nil
    · split
      · rename_i found _
        intro site h
        obtain ⟨j, p, hp, -⟩ := position_level contents delays _ found 0 selectors site h
        simp [hp]
      · simp
end

end

end Site

end StorageQuery
