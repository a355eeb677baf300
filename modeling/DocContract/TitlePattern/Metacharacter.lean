namespace DocContract.TitlePattern

/-- The characters that have a meaning of their own in regular expressions. -/
def metacharacters : List Char :=
  ['.', '^', '$', '*', '+', '?', '\x7b', '\x7d', '[', ']', '\\', '|', '(', ')']

/-- A pattern with such a character is a regular expression; any other stands for itself. -/
def isRegexPattern (pattern : String) : Bool :=
  pattern.toList.any metacharacters.contains

end DocContract.TitlePattern
