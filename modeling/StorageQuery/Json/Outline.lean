import StorageQuery.Json.Token
/-!
Values that are passed over. Only their outline counts: an escape need not stand for a character,
numbers have no bound, and containers nest without a limit.
-/

set_option autoImplicit false

namespace StorageQuery.Outline

inductive Bracket where
  | list
  | object
  deriving DecidableEq, Repr

inductive Place where
  | value
  | firstItem
  | afterItem
  | firstName
  | name
  | colon
  | afterMember
  deriving DecidableEq, Repr

/-- Where a scan stands in the innermost container, and the containers from there outwards. -/
structure State where
  place : Place
  outer : List Bracket

def start : State := ⟨.value, []⟩

def finish : List Bracket → Option State
  | [] => none
  | .list :: outer => some ⟨.afterItem, .list :: outer⟩
  | .object :: outer => some ⟨.afterMember, .object :: outer⟩

def begin (outer : List Bracket) : Token → Except ReadFault (Option State)
  | .null | .bool _ | .number _ | .hugeNumber | .string _ | .oddString _ => .ok (finish outer)
  | .openArray => .ok (some ⟨.firstItem, .list :: outer⟩)
  | .openObject => .ok (some ⟨.firstName, .object :: outer⟩)
  | .brokenString _ outline => .error outline
  | .brokenNumber _ => .error .invalidNumber
  | .broken fault => .error fault
  | .closeArray | .closeObject | .comma | .colon => .error .noValue

def named (outer : List Bracket) : Token → Except ReadFault (Option State)
  | .string _ | .oddString _ => .ok (some ⟨.colon, outer⟩)
  | .brokenString _ outline => .error outline
  | _ => .error .nameNotString

def step (state : State) (token : Token) : Except ReadFault (Option State) :=
  let outer := state.outer
  match state.place, token with
  | .value, token => begin outer token
  | .firstItem, .closeArray => .ok (finish outer.tail)
  | .firstItem, token => begin outer token
  | .afterItem, .comma => .ok (some ⟨.value, outer⟩)
  | .afterItem, .closeArray => .ok (finish outer.tail)
  | .afterItem, _ => .error .noListSeparator
  | .firstName, .closeObject => .ok (finish outer.tail)
  | .firstName, token => named outer token
  | .name, token => named outer token
  | .colon, .colon => .ok (some ⟨.value, outer⟩)
  | .colon, _ => .error .noColon
  | .afterMember, .comma => .ok (some ⟨.name, outer⟩)
  | .afterMember, .closeObject => .ok (finish outer.tail)
  | .afterMember, _ => .error .noMemberSeparator

def Place.endFault : Place → ReadFault
  | .value => .endInValue
  | .firstItem | .afterItem => .endInList
  | .firstName | .name | .colon | .afterMember => .endInObject

def run : State → List Token → Except ReadFault (List Token)
  | state, [] => .error state.place.endFault
  | state, token :: rest =>
    match step state token with
    | .error fault => .error fault
    | .ok (some state) => run state rest
    | .ok none => .ok rest

theorem run_length {state : State} {tokens rest : List Token} (h : run state tokens = .ok rest) :
    rest.length < tokens.length := by
  fun_induction run state tokens with
  | case1 => contradiction
  | case2 => contradiction
  | case3 state token tokens state' hs ih => exact Nat.lt_succ_of_lt (ih h)
  | case4 => injection h with h; simp [h]

def skip (tokens : List Token) : Except ReadFault (List Token) := run start tokens

end StorageQuery.Outline
