namespace DocContract.Text

/-- Cuts the characters at line feeds.  A carriage return in front of a line feed belongs to the
line end, and nothing after the last line feed is no line. -/
def splitLines : List Char → List (List Char)
  | [] => []
  | '\n' :: rest => [] :: splitLines rest
  | '\r' :: '\n' :: rest => [] :: splitLines rest
  | c :: rest =>
    match splitLines rest with
    | [] => [[c]]
    | line :: more => (c :: line) :: more

def lines (text : String) : List String :=
  (splitLines text.toList).map String.ofList

def joinLines (lines : List String) : String :=
  "\n".intercalate lines

/-- Whether the characters hold the sought ones in a row, and at which offset they first do. -/
def indexOf? (sought : List Char) : List Char → Option Nat
  | [] => if sought = [] then some 0 else none
  | c :: rest =>
    if sought.isPrefixOf (c :: rest) then some 0 else (indexOf? sought rest).map (· + 1)

/-- What follows the opening characters, where the list starts with them. -/
def afterOpening? : List Char → List Char → Option (List Char)
  | [], chars => some chars
  | c :: opening, d :: chars => if c = d then afterOpening? opening chars else none
  | _ :: _, [] => none

/-- The parts between the separators; there is one more part than there are separators. -/
def splitAt (separator : Char) : List Char → List (List Char)
  | [] => [[]]
  | c :: rest =>
    if c = separator then [] :: splitAt separator rest
    else match splitAt separator rest with
      | [] => [[c]]
      | part :: more => (c :: part) :: more

def joinWith (separator : Char) : List (List Char) → List Char
  | [] => []
  | [part] => part
  | part :: next :: more => part ++ separator :: joinWith separator (next :: more)

end DocContract.Text
