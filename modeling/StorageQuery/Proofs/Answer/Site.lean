import StorageQuery.Proofs.Answer.Reading
/-!
The sites of an evaluation: each path and each key that it comes to if nothing stops it, nested ones right
after the key whose value they are selected from. A site has its position, the instant at which it begins
and the one at which it is done. The look-ups of an evaluation and its failures are read off its sites.
-/

set_option autoImplicit false

namespace StorageQuery

inductive Asked where
  | value (value : Storage)
  | key (container : Storage) (request : Request)

structure Site where
  position : Position
  start : Nat
  finish : Nat
  asked : Asked

structure LookUp where
  position : Position
  start : Nat
  finish : Nat
  pointer : String
  key : Key

structure Failure where
  position : Position
  time : Nat
  error : StorageError

namespace Site

def under (i : Nat) (site : Site) : Site := { site with position := i :: site.position }

def lookUp? (site : Site) : Option LookUp :=
  match site.asked with
  | .key (.bigMap handle) request =>
    some ⟨site.position, site.start, site.finish, handle.pointer, request.key⟩
  | _ => none

section
variable (contents : Contents) (delays : Delays) (policy : WidePolicy)

def refusal? (value : Storage) : Option StorageError :=
  match value.toPlain policy with
  | .ok _ => none
  | .error e => some e

def error? : Asked → Option StorageError
  | .value value => refusal? policy value
  | .key container request =>
    match container.find contents request.key, request with
    | .error e, _ => some e
    | .ok (some found), .whole _ => refusal? policy found
    | .ok _, _ => none

def failure? (site : Site) : Option Failure :=
  (error? contents policy site.asked).map fun e => ⟨site.position, site.finish, e⟩

def lookedUp (now : Nat) (container : Storage) (key : Key) : Nat :=
  match container with
  | .bigMap handle => now + delays [] handle.pointer key
  | _ => now

end

section
variable (contents : Contents)

mutual
/-- The sites of selectors from the place `i` on. -/
def level (delays : Delays) (now : Nat) (root : Storage) (i : Nat) : List Selector → List Site
  | [] => []
  | selector :: rest =>
    if selector.isBlank then level delays now root i rest
    else (field (delays.below i) now root selector).map (under i) ++ level delays now root (i + 1) rest
def field (delays : Delays) (now : Nat) (root : Storage) : Selector → List Site
  | .path path =>
    match root.get? path with
    | none => []
    | some value => [⟨[], now, now, .value value⟩]
  | .keys name requests =>
    match root.field? name with
    | none => []
    | some value => if value.isContainer then rows delays now value 0 requests else []
def rows (delays : Delays) (now : Nat) (container : Storage) (i : Nat) : List Request → List Site
  | [] => []
  | request :: rest =>
    (row (delays.below i) now container request).map (under i) ++ rows delays now container (i + 1) rest
def row (delays : Delays) (now : Nat) (container : Storage) : Request → List Site
  | .whole key => [⟨[], now, lookedUp delays now container key, .key container (.whole key)⟩]
  | .within key selectors =>
    ⟨[], now, lookedUp delays now container key, .key container (.within key selectors)⟩ ::
      match container.find contents key with
      | .ok (some found) => level delays (lookedUp delays now container key) found 0 selectors
      | _ => []
end

end

end Site

namespace Storage

def sites (contents : Contents) (delays : Delays) (root : Storage) (selectors : List Selector) :
    List Site :=
  Site.level contents delays 0 root 0 selectors

/-- The look-ups of an answer that nothing stops. -/
def lookUps (contents : Contents) (delays : Delays) (root : Storage) (selectors : List Selector) :
    List LookUp :=
  (root.sites contents delays selectors).filterMap Site.lookUp?

/-- All the failures of an answer that nothing stops. -/
def failures (contents : Contents) (delays : Delays) (policy : WidePolicy) (root : Storage)
    (selectors : List Selector) : List Failure :=
  (root.sites contents delays selectors).filterMap (Site.failure? contents policy)

end Storage

def LookUp.beginning (lookUp : LookUp) : Nat × Position × Event :=
  (lookUp.start, lookUp.position, .started lookUp.pointer lookUp.key)

def LookUp.ending (lookUp : LookUp) : Nat × Position × Event :=
  (lookUp.finish, lookUp.position, .completed lookUp.pointer lookUp.key)

def LookUp.course (lookUp : LookUp) : Course :=
  [⟨lookUp.start, lookUp.position, .event (.started lookUp.pointer lookUp.key)⟩,
    ⟨lookUp.finish, lookUp.position, .event (.completed lookUp.pointer lookUp.key)⟩]

def Failure.occurrence (failure : Failure) : Occurrence :=
  ⟨failure.time, failure.position, .fault failure.error⟩

def Site.course (contents : Contents) (policy : WidePolicy) (site : Site) : Course :=
  site.lookUp?.elim [] LookUp.course ++
    (site.failure? contents policy).toList.map Failure.occurrence

theorem Site.position_lookUp? {site : Site} {lookUp : LookUp} (h : site.lookUp? = some lookUp) :
    lookUp.position = site.position ∧ lookUp.start = site.start ∧ lookUp.finish = site.finish := by
  obtain ⟨position, start, finish, asked⟩ := site
  cases asked with
  | value value => simp [lookUp?] at h
  | key container request =>
    cases container <;> simp [lookUp?] at h
    subst h
    exact ⟨rfl, rfl, rfl⟩

end StorageQuery
