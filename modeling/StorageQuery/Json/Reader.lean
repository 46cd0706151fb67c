import StorageQuery.Json.Token
import StorageQuery.Json.Shape
/-!
Reading documents. The reader takes one token at a time and keeps the containers it is inside of, so
that a text which breaks off still shows what was complete by then. Containers nest up to a limit.
-/

set_option autoImplicit false

namespace StorageQuery

namespace Reader

/-- A container whose next value is being read. What it holds stands newest first. -/
inductive Frame where
  | items (done : List Json)
  | members (done : List (String × Json)) (name : String)

inductive Place where
  | value
  | firstItem
  | nextItem (done : List Json)
  | afterItem (done : List Json)
  | firstName
  | nextName (done : List (String × Json))
  | afterName (done : List (String × Json)) (name : String)
  | afterMember (done : List (String × Json))

structure State where
  place : Place
  outer : List Frame

def start : State := ⟨.value, []⟩

inductive Progress where
  | more (state : State)
  | done (json : Json)

def depthLimit : Nat := 127

def put (json : Json) : List Frame → Progress
  | [] => .done json
  | .items done :: outer => .more ⟨.afterItem (json :: done), outer⟩
  | .members done name :: outer => .more ⟨.afterMember ((name, json) :: done), outer⟩

def begin (limit : Nat) (outer : List Frame) : Token → Except ReadFault Progress
  | .null => .ok (put .null outer)
  | .bool b => .ok (put (.bool b) outer)
  | .number n => .ok (put (.number n) outer)
  | .string s => .ok (put (.string s) outer)
  | .openArray => if outer.length < limit then .ok (.more ⟨.firstItem, outer⟩) else .error .tooDeep
  | .openObject => if outer.length < limit then .ok (.more ⟨.firstName, outer⟩) else .error .tooDeep
  | .hugeNumber => .error .numberOutOfRange
  | .oddString fault | .brokenString fault _ | .brokenNumber fault | .broken fault => .error fault
  | .closeArray | .closeObject | .comma | .colon => .error .noValue

def named (done : List (String × Json)) (outer : List Frame) : Token → Except ReadFault Progress
  | .string s => .ok (.more ⟨.afterName done s, outer⟩)
  | .oddString fault | .brokenString fault _ => .error fault
  | _ => .error .nameNotString

def step (limit : Nat) (state : State) (token : Token) : Except ReadFault Progress :=
  let outer := state.outer
  match state.place with
  | .value => begin limit outer token
  | .firstItem =>
    match token with
    | .closeArray => .ok (put (.array []) outer)
    | token => begin limit (.items [] :: outer) token
  | .nextItem done =>
    match token with
    | .closeArray => .error .trailingComma
    | token => begin limit (.items done :: outer) token
  | .afterItem done =>
    match token with
    | .comma => .ok (.more ⟨.nextItem done, outer⟩)
    | .closeArray => .ok (put (.array done.reverse) outer)
    | _ => .error .noListSeparator
  | .firstName =>
    match token with
    | .closeObject => .ok (put (.object []) outer)
    | token => named [] outer token
  | .nextName done =>
    match token with
    | .closeObject => .error .trailingComma
    | token => named done outer token
  | .afterName done name =>
    match token with
    | .colon => .ok (.more ⟨.value, .members done name :: outer⟩)
    | _ => .error .noColon
  | .afterMember done =>
    match token with
    | .comma => .ok (.more ⟨.nextName done, outer⟩)
    | .closeObject => .ok (put (.object done.reverse) outer)
    | _ => .error .noMemberSeparator

def Place.endFault : Place → ReadFault
  | .value | .nextItem _ | .nextName _ => .endInValue
  | .firstItem | .afterItem _ => .endInList
  | .firstName | .afterName _ _ | .afterMember _ => .endInObject

structure Stop where
  fault : ReadFault
  state : State

/-- Reads on until a value is complete; what it holds nests up to the limit. -/
def run (limit : Nat) : State → List Token → Except Stop (Json × List Token)
  | state, [] => .error ⟨state.place.endFault, state⟩
  | state, token :: rest =>
    match step limit state token with
    | .error fault => .error ⟨fault, state⟩
    | .ok (.more state) => run limit state rest
    | .ok (.done json) => .ok (json, rest)

theorem run_length {limit : Nat} {state : State} {tokens rest : List Token} {json : Json}
    (h : run limit state tokens = .ok (json, rest)) : rest.length < tokens.length := by
  fun_induction run limit state tokens with
  | case1 => contradiction
  | case2 => contradiction
  | case3 state token tokens state' hs ih => exact Nat.lt_succ_of_lt (ih h)
  | case4 state token tokens json' hs =>
    injection h with h
    injection h with _ h
    simp [h]

def value (limit : Nat) (tokens : List Token) : Except ReadFault (Json × List Token) :=
  (run limit start tokens).mapError Stop.fault

theorem value_length {limit : Nat} {tokens rest : List Token} {json : Json}
    (h : value limit tokens = .ok (json, rest)) : rest.length < tokens.length := by
  unfold value at h
  cases hr : run limit start tokens with
  | error stop => rw [hr] at h; contradiction
  | ok p =>
    rw [hr] at h
    injection h with h
    exact run_length (h ▸ hr)

/-- The container in which everything else stands, as far as it was read. -/
inductive Outermost where
  | items (done : List Json)
  | members (done : List (String × Json)) (name : Option String)

def Frame.outermost : Frame → Outermost
  | .items done => .items done.reverse
  | .members done name => .members done.reverse (some name)

def State.outermost? (state : State) : Option Outermost :=
  match state.outer.getLast? with
  | some frame => some frame.outermost
  | none =>
    match state.place with
    | .value => none
    | .firstItem => some (.items [])
    | .nextItem done | .afterItem done => some (.items done.reverse)
    | .firstName => some (.members [] none)
    | .nextName done | .afterMember done => some (.members done.reverse none)
    | .afterName done name => some (.members done.reverse (some name))

end Reader

namespace Json

def readFirst (text : String) : Except Reader.Stop (Json × List Token) :=
  Reader.run Reader.depthLimit Reader.start (tokens text.toList)

/-- The tree of a text, as it stands there, in the shape that is asked for. A wrong shape is
reported before text that follows. -/
def readAs {α : Type} (decode : Json → Except ShapeFault α) (text : String) : Except Fault α :=
  match readFirst text with
  | .error stop => .error (.text stop.fault)
  | .ok (json, rest) =>
    match decode json with
    | .error fault => .error (.shape fault)
    | .ok a => if rest.isEmpty then .ok a else .error (.text .trailingText)

/-- The document of a text, each name of an object with one member. -/
def read (text : String) : Except Fault Json := readAs (fun json => .ok json.collapse) text

end Json

end StorageQuery
