import DocContract.Regex.Escape

namespace DocContract.Regex

open DocContract.Text

inductive SetOperator where
  | intersection
  | difference
  | symmetricDifference
  deriving DecidableEq, Repr

def SetOperator.combine (operator : SetOperator) (left right : CharClass) : CharClass :=
  match operator with
  | .intersection => .inter left right
  | .difference => .diff left right
  | .symmetricDifference => .symmetricDiff left right

/-- A class while it is being read: what stands before the last operator with its depth, and the
members since with their number and the depth of the deepest. -/
structure SetDraft where
  pending : Option (CharClass × Nat × SetOperator) := none
  members : CharClass := .nothing
  count : Nat := 0
  deepest : Nat := 0

namespace SetDraft

def add (draft : SetDraft) (members : CharClass) (depth : Nat) : SetDraft :=
  { draft with
    members := .union draft.members members
    count := draft.count + 1
    deepest := max draft.deepest depth }

/-- The class so far.  Operators group to the left; both sides of one are first extended by case. -/
def value (draft : SetDraft) (flags : Flags) : CharClass :=
  match draft.pending with
  | none => draft.members
  | some (left, _, operator) =>
    operator.combine (flags.fold left) (flags.fold draft.members)

/-- How deep the class so far nests: several members are a level, and so is an operator. -/
def depth (draft : SetDraft) : Nat :=
  let members := if draft.count ≤ 1 then draft.deepest else draft.deepest + 1
  match draft.pending with
  | none => members
  | some (_, depth, _) => max depth members + 1

def operate (draft : SetDraft) (flags : Flags) (operator : SetOperator) : SetDraft where
  pending := some (draft.value flags, draft.depth, operator)

end SetDraft

/-- The members of a class with a name, such as `alpha`. -/
def asciiMembers? (name : String) : Option CharClass :=
  let digits : CharClass := .range '0' '9'
  let upper : CharClass := .range 'A' 'Z'
  let lower : CharClass := .range 'a' 'z'
  match name with
  | "alnum" => some (.unionAll [digits, upper, lower])
  | "alpha" => some (.unionAll [upper, lower])
  | "ascii" => some .ascii
  | "blank" => some (asciiClass ['\t', ' '])
  | "cntrl" => some (.unionAll [.range '\x00' '\x1f', .single '\x7f'])
  | "digit" => some digits
  | "graph" => some (.range '!' '~')
  | "lower" => some lower
  | "print" => some (.range ' ' '~')
  | "punct" =>
    some (.unionAll [.range '!' '/', .range ':' '@', .range '[' '\x60', .range '\x7b' '~'])
  | "space" => some (asciiClass ['\t', '\n', '\x0b', '\x0c', '\r', ' '])
  | "upper" => some upper
  | "word" => some (.unionAll [digits, upper, lower, .single '_'])
  | "xdigit" => some (.unionAll [digits, .range 'A' 'F', .range 'a' 'f'])
  | _ => none

/-- The class that folds case and negates as asked.  Without characters beyond ASCII a class has no
complement. -/
def finished? (flags : Flags) (negated : Bool) (set : CharClass) : Option CharClass :=
  if !flags.unicode && (negated || !set.isAscii) then none
  else some (.negateIf negated (flags.fold set))

/-- A named class behind an opening bracket, `:alpha:]` or `:^alpha:]`. -/
def asciiName? (chars : List Char) : Option (Bool × CharClass × List Char) :=
  match chars with
  | ':' :: rest =>
    let (negated, rest) := match rest with
      | '^' :: rest => (true, rest)
      | _ => (false, rest)
    match rest.dropWhile (· != ':') with
    | ':' :: ']' :: after =>
      (asciiMembers? (String.ofList (rest.takeWhile (· != ':')))).map fun set =>
        (negated, set, after)
    | _ => none
  | _ => none

/-- One character or class in brackets. -/
def member? (flags : Flags) (chars : List Char) : Option (Escape × List Char) :=
  match chars with
  | [] => none
  | '\\' :: rest => escape? flags rest
  | c :: rest => some (.char c, rest)

/-- A member, or the first and last members of a range with a dash between them.  A dash in front of
another one or of the closing bracket makes no range. -/
def rangeOrMember? (flags : Flags) (chars : List Char) : Option (CharClass × List Char) := do
  let (first, rest) ← member? flags chars
  let alone := match first with
    | .char c => some (CharClass.single c, flags.skip rest)
    | .set set => some (set, flags.skip rest)
    | .assert _ => none
  match flags.skip rest with
  | [] => none
  | '-' :: more =>
    match flags.skip more with
    | [] => none
    | ']' :: _ => alone
    | '-' :: _ => alone
    | start =>
      match first, ← member? flags start with
      | .char low, (.char high, rest) => if low ≤ high then some (.range low high, rest) else none
      | _, _ => none
  | _ => alone

/-- Adds the dashes at the start of a class, which stand for themselves. -/
def leadingDashes (flags : Flags) (draft : SetDraft) : Nat → List Char → SetDraft × List Char
  | 0, chars => (draft, chars)
  | fuel + 1, chars =>
    match flags.skip chars with
    | '-' :: rest => leadingDashes flags (draft.add (.single '-') 0) fuel rest
    | start => (draft, start)

/-- The start of a class behind its opening bracket: whether it is negated, and the members that
stand for themselves there. -/
def opening (flags : Flags) (chars : List Char) : Bool × SetDraft × List Char :=
  let start := flags.skip chars
  let (negated, start) := match start with
    | '^' :: rest => (true, flags.skip rest)
    | _ => (false, start)
  let (draft, start) := leadingDashes flags {} (start.length + 1) start
  match draft.count, start with
  | 0, ']' :: rest => (negated, draft.add (.single ']') 0, rest)
  | _, _ => (negated, draft, start)

/-- The members of a class up to its closing bracket, with their depth.  `nested` reads a class
behind its opening bracket. -/
def members? (flags : Flags) (nested : List Char → Option (CharClass × Nat × List Char))
    (draft : SetDraft) : Nat → List Char → Option (CharClass × Nat × List Char)
  | 0, _ => none
  | fuel + 1, chars =>
    match flags.skip chars with
    | [] => none
    | ']' :: rest => some (draft.value flags, draft.depth, rest)
    | '[' :: rest =>
      match asciiName? rest with
      | some (negated, set, after) => do
        members? flags nested (draft.add (← finished? flags negated set) 0) fuel after
      | none => do
        let (set, depth, rest) ← nested rest
        members? flags nested (draft.add set depth) fuel rest
    | '&' :: '&' :: rest => members? flags nested (draft.operate flags .intersection) fuel rest
    | '-' :: '-' :: rest => members? flags nested (draft.operate flags .difference) fuel rest
    | '~' :: '~' :: rest =>
      members? flags nested (draft.operate flags .symmetricDifference) fuel rest
    | start => do
      let (set, rest) ← rangeOrMember? flags start
      members? flags nested (draft.add set 0) fuel rest

/-- A class behind its opening bracket, with its depth.  Classes nest no deeper than the limit. -/
def bracket? (flags : Flags) : Nat → List Char → Option (CharClass × Nat × List Char)
  | 0, _ => none
  | limit + 1, chars => do
    let (negated, draft, start) := opening flags chars
    let (set, depth, rest) ← members? flags (bracket? flags limit) draft (start.length + 1) start
    some (← finished? flags negated set, depth + 1, rest)

end DocContract.Regex
