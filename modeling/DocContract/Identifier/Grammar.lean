import DocContract.Identifier.Mention
import DocContract.Sorted.KeySet

/-!
The parts of an identifier: a system, a kind and a slug, and the kind and slug of the outer element
where the kind is declared as nested in another.
-/

namespace DocContract.Identifier

open DocContract.Text DocContract.Sorted

/-- The element that an identifier of a nested kind belongs to. -/
structure Parent where
  kind : String
  slug : String
  deriving DecidableEq, Repr, Inhabited

/-- An identifier with its parts. -/
structure Parsed where
  raw : String
  system : String
  kind : String
  slug : String
  parent : Option Parent
  deriving DecidableEq, Repr, Inhabited

/-- What decides how identifiers are taken apart: the registered systems, the longest first, the
known kinds, and for each kind the kinds nested in it. -/
structure Grammar where
  systems : List String
  kinds : KeySet
  nested : KeyMap KeySet
  deriving Repr, Inhabited

namespace Grammar

/-- The grammar with these systems, of which empty ones do not count. -/
def ofSystems (systems : List String) (kinds : KeySet) (nested : KeyMap KeySet) : Grammar where
  systems := (KeySet.ofList (systems.filter (· ≠ ""))).members.mergeSort fun first second =>
    second.length ≤ first.length
  kinds
  nested

def isKind (grammar : Grammar) (name : String) : Bool :=
  grammar.kinds.contains name

def isNested (grammar : Grammar) (outer inner : String) : Bool :=
  (grammar.nested.find? outer).any (·.contains inner)

def tokensOf (chars : List Char) : List String :=
  (splitAt '-' chars).map String.ofList

def joinTokens (tokens : List String) : String :=
  String.ofList (joinWith '-' (tokens.map String.toList))

/-- The last accepted member that has another one behind it: the members in front of it, itself and
those behind it.  `before` is in front of the list. -/
def lastInner? (accepts : List α → α → Bool) (before : List α) :
    List α → Option (List α × α × List α)
  | item :: next :: more =>
    (lastInner? accepts (before ++ [item]) (next :: more)).or
      (if accepts before item then some (before, item, next :: more) else none)
  | _ => none

/-- Whether the text fits behind a registered system: the system, a dash and a tail that has a dash
in it.  The answer is the tail. -/
def tailBehind? (system : String) (chars : List Char) : Option (List Char) :=
  (afterOpening? (system.toList ++ ['-']) chars).filter (·.contains '-')

/-- The longest registered system that fits, with the tokens behind it. -/
def registered? (grammar : Grammar) (chars : List Char) : Option (String × List String) :=
  grammar.systems.findSome? fun system =>
    (tailBehind? system chars).map fun tail => (system, tokensOf tail)

/-- Where no registered system fits, the last known kind ends the system, unless an earlier kind
declares it as nested.  Without such a kind the system is the first token. -/
def inferred (grammar : Grammar) (first : String) (rest : List String) : String × List String :=
  let opensKind := fun before token =>
    grammar.isKind token &&
      !(before.any fun outer => grammar.isKind outer && grammar.isNested outer token)
  match lastInner? opensKind [] rest with
  | some (system, kind, slug) => (joinTokens (first :: system), kind :: slug)
  | none => (first, rest)

/-- Takes the tokens behind the system apart. -/
def parsed (grammar : Grammar) (raw system : String) : List String → Parsed
  | [] => ⟨raw, system, "", "", none⟩
  | [kind] => ⟨raw, system, kind, "", none⟩
  | kind :: first :: more =>
    match lastInner? (fun _ inner => grammar.isNested kind inner) [first] more with
    | some (outer, inner, slug) =>
      ⟨raw, system, inner, joinTokens slug, some ⟨kind, joinTokens outer⟩⟩
    | none => ⟨raw, system, kind, joinTokens (first :: more), none⟩

/-- The parts of an identifier.  Behind the opening it has three or more tokens, none empty. -/
def parse? (grammar : Grammar) (raw : String) : Option Parsed :=
  (afterOpening? opening raw.toList).bind fun chars =>
    let tokens := tokensOf chars
    if tokens.length < 3 ∨ tokens.contains "" then none
    else
      let (system, tail) := (grammar.registered? chars).getD
        (grammar.inferred (tokens.headD "") tokens.tail)
      some (grammar.parsed raw system tail)

end Grammar

end DocContract.Identifier
