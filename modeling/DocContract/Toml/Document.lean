import DocContract.Toml.Number
import DocContract.Toml.Table
import DocContract.Toml.Text

namespace DocContract.Toml

open DocContract.Text

/-- A reader of one thing at the start of the characters. -/
abbrev Reader (α : Type) := List Char → Option (α × List Char)

/-- The items of an array behind its opening bracket.  A comma may follow the last item. -/
def items? (item : Reader Value) : Nat → Reader (List Value)
  | 0, _ => none
  | fuel + 1, chars =>
    match dropGaps false chars with
    | ']' :: rest => some ([], rest)
    | start => do
      let (value, rest) ← item start
      match dropGaps false rest with
      | ',' :: rest =>
        let (values, rest) ← items? item fuel rest
        some (value :: values, rest)
      | ']' :: rest => some ([value], rest)
      | _ => none

/-- The assignments of an inline table behind its opening brace.  No comma follows the last. -/
def assignments? (item : Reader Value) (nodes : Nodes) : Nat → Reader Nodes
  | 0, _ => none
  | fuel + 1, chars => do
    let (key, rest) ← key? chars
    let (value, rest) ← item ((← afterOpening? ['='] rest).dropWhile isSpaceOrTab)
    let nodes ← Nodes.assign? key value .header nodes
    match rest.dropWhile isSpaceOrTab with
    | ',' :: rest => assignments? item nodes fuel rest
    | '}' :: rest => some (nodes, rest)
    | _ => none

/-- The value at the start.  Arrays and inline tables nest less deep than the limit. -/
def value? : Nat → Reader Value
  | depth, chars =>
    match chars with
    | '"' :: _ => (string? chars).map fun (text, rest) => (.string (String.ofList text), rest)
    | '\'' :: _ => (string? chars).map fun (text, rest) => (.string (String.ofList text), rest)
    | 't' :: rest => (afterOpening? ['r', 'u', 'e'] rest).map (.boolean true, ·)
    | 'f' :: rest => (afterOpening? ['a', 'l', 's', 'e'] rest).map (.boolean false, ·)
    | '[' :: rest =>
      match depth with
      | 0 => none
      | depth + 1 => (items? (value? depth) rest.length rest).map fun (items, rest) =>
        (.array items, rest)
    | '{' :: rest =>
      match depth with
      | 0 => none
      | depth + 1 =>
        match rest.dropWhile isSpaceOrTab with
        | '}' :: rest => some (.table [], rest)
        | start => (assignments? (value? depth) [] start.length start).map fun (nodes, rest) =>
          (.table (Nodes.toEntries nodes), rest)
    | _ => number? chars

def nestingLimit : Nat := 79

/-- A header: whether its table is one of an array, and its path. -/
def header? (chars : List Char) : Option ((Bool × List String) × List Char) :=
  match chars with
  | '[' :: '[' :: rest => do
    let (path, rest) ← key? rest
    some ((true, path), ← afterOpening? [']', ']'] rest)
  | '[' :: rest => do
    let (path, rest) ← key? rest
    some ((false, path), ← afterOpening? [']'] rest)
  | _ => none

/-- The lines of a document behind the header, which is empty before the first.  Each line takes
some fuel. -/
def document? (header : List String) (nodes : Nodes) : Nat → List Char → Option Nodes
  | 0, _ => none
  | fuel + 1, chars =>
    match chars.dropWhile isSpaceOrTab with
    | [] => some nodes
    | '#' :: rest => do document? header nodes fuel (← afterLine? ('#' :: rest))
    | '[' :: rest => do
      let ((isArray, path), rest) ← header? ('[' :: rest)
      let rest ← afterLine? rest
      let nodes ← if isArray then Nodes.pushTable? path nodes else Nodes.openTable? path nodes
      document? path nodes fuel rest
    | start =>
      match afterLineEnd? start with
      | some rest => document? header nodes fuel rest
      | none => do
        let (key, rest) ← key? start
        let (value, rest) ← value? nestingLimit
          ((← afterOpening? ['='] rest).dropWhile isSpaceOrTab)
        let rest ← afterLine? rest
        let nodes ← Nodes.assignIn? header key value nodes
        document? header nodes fuel rest

/-- The entries of a document; none if it is no TOML.  A byte order mark may stand in front. -/
def parse? (text : String) : Option Entries :=
  let chars := match text.toList with
    | '\uFEFF' :: rest => rest
    | chars => chars
  (document? [] [] (chars.length + 1) chars).map Nodes.toEntries

end DocContract.Toml
