namespace DocContract

/-- A JSON value.  Integers of up to 64 bits are numbers; any other number keeps its text.  The
members of an object keep their order, and a key may come again.  A string is garbled if its escapes
stand for no text, and so is an object with such a key: it can be passed over but not read. -/
inductive Json where
  | null
  | bool (value : Bool)
  | integer (value : Int)
  | decimal (text : String)
  | string (text : String)
  | array (items : List Json)
  | object (members : List (String × Json))
  | garbled
  deriving Repr, Inhabited

namespace Json

def strings (texts : List String) : Json :=
  .array (texts.map .string)

def nat (value : Nat) : Json :=
  .integer value

def ofOption (encode : α → Json) : Option α → Json
  | some value => encode value
  | none => .null

/-- The first member of an object under the key. -/
def member? (members : List (String × Json)) (key : String) : Option Json :=
  members.lookup key

end Json

end DocContract
