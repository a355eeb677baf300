import DocContract.Regex.Bracket

namespace DocContract.Regex

open DocContract.Text

/-- What a branch is made of: expressions with their depths, and flags, which cannot be repeated. -/
inductive Item where
  | expression (expression : Regex) (depth : Nat)
  | flags

def Item.depth : Item → Nat
  | .expression _ depth => depth
  | .flags => 0

/-- How deep parts nest together: several of them are a level of their own. -/
def jointDepth : List Nat → Nat
  | [] => 0
  | [depth] => depth
  | depths => depths.foldl max 0 + 1

/-- A group while it is being read: the flags in force, the names of groups so far, the branches
that are complete, with their depths, and the items of the last one; both lists have the latest
first. -/
structure Draft where
  flags : Flags
  names : List (List Char)
  branches : List (Regex × Nat) := []
  items : List Item := []

namespace Draft

def push (draft : Draft) (expression : Regex) (depth : Nat) : Draft :=
  { draft with items := .expression expression depth :: draft.items }

def pushChars (draft : Draft) (set : CharClass) : Draft :=
  draft.push (.oneOf set) 0

/-- The items of the last branch in a row. -/
def branch (draft : Draft) : Regex × Nat :=
  let expression := draft.items.foldl (fun rest item =>
    match item with
    | .expression expression _ =>
      match rest with
      | .empty => expression
      | rest => .seq expression rest
    | .flags => rest) .empty
  (expression, jointDepth (draft.items.map Item.depth))

def nextBranch (draft : Draft) : Draft :=
  { draft with branches := draft.branch :: draft.branches, items := [] }

/-- The expression of all branches. -/
def finish (draft : Draft) : Regex × Nat :=
  let (last, depth) := draft.branch
  (draft.branches.foldl (fun rest branch => .either branch.1 rest) last,
    jointDepth (depth :: draft.branches.map Prod.snd))

/-- Repeats the last item; there must be one, and it must not be flags. -/
def repeatLast? (draft : Draft) (min : Nat) (max : Option Nat) : Option Draft :=
  match draft.items with
  | .expression expression depth :: rest =>
    some { draft with items := .expression (.repeat min max expression) (depth + 1) :: rest }
  | _ => none

end Draft

/-- A repetition may be marked as matching as little as possible, which changes no search. -/
def dropLazyMark (chars : List Char) : List Char :=
  match chars with
  | '?' :: rest => rest
  | _ => chars

/-- The digits of a count, with blanks around and between them as far as they are allowed. -/
def countDigits (flags : Flags) : Nat → List Char → List Char × List Char
  | 0, chars => ([], chars)
  | fuel + 1, chars =>
    match chars with
    | c :: rest =>
      if isAsciiDigit c then
        let (digits, after) := countDigits flags fuel (flags.skip rest)
        (c :: digits, after)
      else ([], chars)
    | [] => ([], [])

/-- A count: nothing where there are no digits, and no answer where it does not fit into 32 bits. -/
def count? (flags : Flags) (chars : List Char) : Option (Option Nat × List Char) :=
  let (digits, rest) := countDigits flags (chars.length + 1) (chars.dropWhile isBlank)
  let after := flags.skip (rest.dropWhile isBlank)
  if digits.isEmpty then some (none, after)
  else if natOfDigits digits < UInt32.size then some (some (natOfDigits digits), after)
  else none

/-- The bounds of a counted repetition behind its opening brace. -/
def bounds? (flags : Flags) (chars : List Char) : Option ((Nat × Option Nat) × List Char) := do
  let (least, rest) ← count? flags (flags.skip chars)
  let least ← least
  match rest with
  | ',' :: rest =>
    match flags.skip rest with
    | '\x7d' :: rest => some ((least, none), rest)
    | start =>
      let (most, rest) ← count? flags start
      let most ← most
      match rest with
      | '\x7d' :: rest => if least ≤ most then some ((least, some most), rest) else none
      | _ => none
  | '\x7d' :: rest => some ((least, some least), rest)
  | _ => none

def isNameChar (first : Bool) (c : Char) : Bool :=
  c == '_' ||
    if first then alphabetic.contains c.toNat
    else c == '.' || c == '[' || c == ']' || isAlphanumeric c

def groupName? (chars : List Char) : Option (List Char × List Char) :=
  let name := chars.takeWhile (· != '>')
  match name, chars.dropWhile (· != '>') with
  | c :: rest, '>' :: after =>
    if isNameChar true c && rest.all (isNameChar false) then some (name, after) else none
  | _, _ => none

/-- What an opening parenthesis begins: a group with its flags and the names so far, or flags. -/
inductive GroupStart where
  | group (flags : Flags) (names : List (List Char)) (rest : List Char)
  | flags (flags : Flags) (rest : List Char)

/-- Reads what stands behind an opening parenthesis and in front of the content of the group. -/
def groupStart? (draft : Draft) (chars : List Char) : Option GroupStart :=
  let named := fun start => (groupName? start).bind fun (name, rest) =>
    if draft.names.contains name then none
    else some (GroupStart.group draft.flags (name :: draft.names) rest)
  match draft.flags.skip chars with
  | '?' :: 'P' :: '<' :: rest => named rest
  | '?' :: '<' :: '=' :: _ => none
  | '?' :: '<' :: '!' :: _ => none
  | '?' :: '<' :: rest => named rest
  | '?' :: rest =>
    match draft.flags.read? [] rest with
    | some (flags, true, ')' :: after) => some (.flags flags after)
    | some (flags, _, ':' :: after) => some (.group flags draft.names after)
    | _ => none
  | start => some (.group draft.flags draft.names start)

def dotClass? (flags : Flags) : Option CharClass :=
  if !flags.unicode then none
  else if flags.dotAll then some .anything
  else if flags.returns then some (.complement (.union (.single '\r') (.single '\n')))
  else some (.complement (.single '\n'))

def startCondition (flags : Flags) : Assertion :=
  if flags.multiLine then if flags.returns then .returnLineStart else .lineStart else .textStart

def endCondition (flags : Flags) : Assertion :=
  if flags.multiLine then if flags.returns then .returnLineEnd else .lineEnd else .textEnd

/-- A character that stands for itself. -/
def literalClass (flags : Flags) (c : Char) : CharClass :=
  flags.fold (.single c)

/-- How deep an expression may nest: groups, classes, repetitions, branches and items in a row are
levels. -/
def nestingLimit : Nat := 250

/-- The rest of a group up to its closing parenthesis, or of the whole expression, with its depth.
`inner` reads the rest of a group inside it. -/
def group? (inner : Draft → List Char → Option ((Regex × Nat) × List (List Char) × List Char))
    (isInner : Bool) :
    Nat → Draft → List Char → Option ((Regex × Nat) × List (List Char) × List Char)
  | 0, _, _ => none
  | fuel + 1, draft, chars =>
    match draft.flags.skip chars with
    | [] => if isInner then none else some (draft.finish, draft.names, [])
    | ')' :: rest => if isInner then some (draft.finish, draft.names, rest) else none
    | '|' :: rest => group? inner isInner fuel draft.nextBranch rest
    | '(' :: rest => do
      match ← groupStart? draft rest with
      | .flags flags rest =>
        group? inner isInner fuel { draft with flags, items := .flags :: draft.items } rest
      | .group flags names rest =>
        let ((expression, depth), names, rest) ← inner { flags, names } rest
        group? inner isInner fuel ({ draft with names }.push expression (depth + 1)) rest
    | '[' :: rest => do
      let (set, depth, rest) ← bracket? draft.flags nestingLimit rest
      group? inner isInner fuel (draft.push (.oneOf set) depth) rest
    | '?' :: rest => do
      group? inner isInner fuel (← draft.repeatLast? 0 (some 1)) (dropLazyMark rest)
    | '*' :: rest => do
      group? inner isInner fuel (← draft.repeatLast? 0 none) (dropLazyMark rest)
    | '+' :: rest => do
      group? inner isInner fuel (← draft.repeatLast? 1 none) (dropLazyMark rest)
    | '\x7b' :: rest => do
      let ((min, max), rest) ← bounds? draft.flags rest
      group? inner isInner fuel (← draft.repeatLast? min max)
        (dropLazyMark (draft.flags.skip rest))
    | '\\' :: rest => do
      match ← escape? draft.flags rest with
      | (.char c, rest) =>
        group? inner isInner fuel (draft.pushChars (literalClass draft.flags c)) rest
      | (.set set, rest) => group? inner isInner fuel (draft.pushChars set) rest
      | (.assert condition, rest) =>
        group? inner isInner fuel (draft.push (.assert condition) 0) rest
    | '.' :: rest => do
      group? inner isInner fuel (draft.pushChars (← dotClass? draft.flags)) rest
    | '^' :: rest =>
      group? inner isInner fuel (draft.push (.assert (startCondition draft.flags)) 0) rest
    | '$' :: rest =>
      group? inner isInner fuel (draft.push (.assert (endCondition draft.flags)) 0) rest
    | c :: rest =>
      group? inner isInner fuel (draft.pushChars (literalClass draft.flags c)) rest

/-- The rest of a group inside another, where groups may still nest so deep. -/
def innerGroup? :
    Nat → Draft → List Char → Option ((Regex × Nat) × List (List Char) × List Char)
  | 0, _, _ => none
  | limit + 1, draft, chars => group? (innerGroup? limit) true (chars.length + 1) draft chars

/-- The expression that a text writes; none if it writes none, or one that is too deep or too large.
Two limits: of the properties of characters only those of `properties` are known, besides categories
and scripts, and the extensions of a script are taken for the script; and as `size` is an estimate,
an expression about as large as `sizeLimit` may be taken or refused wrongly. -/
def parse? (text : String) : Option Regex := do
  let chars := text.toList
  let draft : Draft := { flags := Flags.initial, names := [] }
  let ((expression, depth), _) ←
    group? (innerGroup? nestingLimit) false (chars.length + 1) draft chars
  if depth ≤ nestingLimit ∧ expression.size ≤ sizeLimit then some expression else none

end DocContract.Regex
