import DocContract.Regex.Parser
import DocContract.Text.Numbering
import DocContract.TitlePattern.Metacharacter

/-!
Patterns of titles: a text that a title must equal, or a regular expression that must be found in
it.  Case does not count, and neither does a number in front of a title.
-/

namespace DocContract

open DocContract.Text

/-- A pattern that titles are compared with. -/
inductive TitlePattern where
  | literal (text : String)
  | regex (expression : Regex)
  deriving DecidableEq, Repr, Inhabited

namespace TitlePattern

/-- The pattern that a text writes; none if it is a regular expression that cannot be read. -/
def compile? (pattern : String) : Option TitlePattern :=
  if isRegexPattern pattern then (Regex.parse? pattern).map .regex
  else some (.literal (lowercase (trim pattern)))

/-- Whether the title has the pattern.  A literal equals the title with or without its number; a
regular expression is looked for behind the number. -/
def accepts (pattern : TitlePattern) (title : String) : Bool :=
  match pattern with
  | .literal expected =>
    let title := lowercase (trim title)
    title == expected || trim (stripNumber title) == expected
  | .regex expression => expression.isFoundIn (trimChars (dropNumber title.toList))

end TitlePattern

end DocContract
