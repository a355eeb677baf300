import DocContract.Decimal
import DocContract.Toml.Datetime

namespace DocContract.Toml

/-- A TOML value.  A table keeps its entries in the order in which their keys first appear. -/
inductive Value where
  | string (text : String)
  | integer (value : Int)
  | float (value : Number)
  | boolean (value : Bool)
  | datetime (value : Datetime)
  | array (items : List Value)
  | table (entries : List (String × Value))
  deriving Repr, Inhabited

abbrev Entries := List (String × Value)

end DocContract.Toml
