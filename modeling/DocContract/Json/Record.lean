import DocContract.Json.Value

namespace DocContract.Json

/-- The values of the named fields of a record.  A record is an object, in which no field comes
twice and other members do not count, or an array of the fields in their order, at whose end fields
may be missing. -/
def fields? (names : List String) : Json → Option (List (Option Json))
  | .object members => names.mapM fun name =>
    match members.filter fun member => member.1 == name with
    | [] => some none
    | [member] => some (some member.2)
    | _ => none
  | .array items =>
    if items.length ≤ names.length then
      some (items.map some ++ List.replicate (names.length - items.length) none)
    else none
  | _ => none

def text? : Json → Option String
  | .string text => some text
  | _ => none

def bool? : Json → Option Bool
  | .bool value => some value
  | _ => none

/-- A number that is not negative and below the bound. -/
def below? (bound : Nat) : Json → Option Nat
  | .integer (.ofNat value) => if value < bound then some value else none
  | _ => none

def byte? (value : Json) : Option UInt8 :=
  (below? UInt8.size value).map UInt8.ofNat

def word? (value : Json) : Option UInt32 :=
  (below? UInt32.size value).map UInt32.ofNat

/-- The items of an array, each read in the same way. -/
def list? (read : Json → Option α) : Json → Option (List α)
  | .array items => items.mapM read
  | _ => none

/-- The members of an object, each value read in the same way. -/
def entries? (read : Json → Option α) : Json → Option (List (String × α))
  | .object members => members.mapM fun (key, value) => (read value).map fun value => (key, value)
  | _ => none

/-- A value that may be missing or null. -/
def optional? (read : Json → Option α) : Option Json → Option (Option α)
  | none => some none
  | some .null => some none
  | some value => (read value).map some

/-- A value that may be missing but not null. -/
def default? (read : Json → Option α) (absent : α) : Option Json → Option α
  | none => some absent
  | some value => read value

/-- One of several words, as a string or as the only key of an object that holds null. -/
def variant? : Json → Option String
  | .string name => some name
  | .object [(name, .null)] => some name
  | _ => none

end DocContract.Json
