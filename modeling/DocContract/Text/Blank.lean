namespace DocContract.Text

/-- The characters with the Unicode property White_Space. -/
def isBlank (c : Char) : Bool :=
  ('\t' ≤ c && c ≤ '\r') || c == ' ' || c == '\u0085' || c == '\u00a0' || c == '\u1680' ||
    ('\u2000' ≤ c && c ≤ '\u200a') || c == '\u2028' || c == '\u2029' || c == '\u202f' ||
    c == '\u205f' || c == '\u3000'

/-- The two blanks that stand within a line of a document: the space and the tab. -/
def isSpaceOrTab (c : Char) : Bool :=
  c == ' ' || c == '\t'

/-- The list without the longest part at its end whose members all satisfy the test. -/
def dropEndWhile (test : α → Bool) (items : List α) : List α :=
  (items.reverse.dropWhile test).reverse

/-- The characters without the blanks at both ends. -/
def trimChars (chars : List Char) : List Char :=
  dropEndWhile isBlank (chars.dropWhile isBlank)

def trim (text : String) : String :=
  String.ofList (trimChars text.toList)

def trimEnd (text : String) : String :=
  String.ofList (dropEndWhile isBlank text.toList)

end DocContract.Text
