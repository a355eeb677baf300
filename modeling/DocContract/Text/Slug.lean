import DocContract.Text.Blank
import DocContract.Text.CaseMap
import DocContract.Text.Digit
import DocContract.Text.Letter

namespace DocContract.Text

/-- Writes the words in lower case.  `started` says that a word has been written, and `apart` that
other characters have been passed since. -/
def slugFrom (started apart : Bool) : List Char → List Char
  | [] => []
  | c :: rest =>
    if isAsciiAlphanumeric c then
      if started && apart then '-' :: c.toLower :: slugFrom true false rest
      else c.toLower :: slugFrom true false rest
    else slugFrom started true rest

/-- The ASCII words of the text in lower case with one dash between neighbours. -/
def slugify (text : String) : String :=
  String.ofList (slugFrom false false text.toList)

/-- What a character of a title becomes in a link to its heading, if it is kept. -/
def anchorChar? (c : Char) : Option Char :=
  if c = ' ' then some '-'
  else if c = '-' ∨ c = '_' ∨ isAlphanumeric c then some c
  else none

/-- The name by which links address the heading with this title. -/
def anchor (title : String) : String :=
  String.ofList ((lowercase (trim title)).toList.filterMap anchorChar?)

end DocContract.Text
