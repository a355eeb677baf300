import DocContract.Regex.CharClass

/-!
Regular expressions and their search in a text, by partial derivatives.
-/

namespace DocContract.Regex

/-- A condition on the place between two characters.  The word conditions say whether letters of all
scripts count as characters of words, or ASCII ones alone. -/
inductive Assertion where
  | textStart
  | textEnd
  | lineStart
  | lineEnd
  | returnLineStart
  | returnLineEnd
  | wordBoundary (unicode : Bool)
  | notWordBoundary (unicode : Bool)
  | wordStart (unicode : Bool)
  | wordEnd (unicode : Bool)
  | wordStartHalf (unicode : Bool)
  | wordEndHalf (unicode : Bool)
  deriving DecidableEq, Repr, Inhabited

/-- A place in a text: the characters before and after it, where there are some. -/
structure Place where
  before : Option Char
  after : Option Char
  deriving DecidableEq, Repr

def isWordAt (unicode : Bool) (c : Option Char) : Bool :=
  c.any (if unicode then isWordChar else isAsciiWordChar)

namespace Assertion

def holds (place : Place) : Assertion → Bool
  | .textStart => place.before.isNone
  | .textEnd => place.after.isNone
  | .lineStart => place.before.all (· == '\n')
  | .lineEnd => place.after.all (· == '\n')
  | .returnLineStart =>
    place.before.all fun c => c == '\n' || (c == '\r' && place.after != some '\n')
  | .returnLineEnd =>
    place.after.all fun c => c == '\r' || (c == '\n' && place.before != some '\r')
  | .wordBoundary unicode => isWordAt unicode place.before != isWordAt unicode place.after
  | .notWordBoundary unicode => isWordAt unicode place.before == isWordAt unicode place.after
  | .wordStart unicode => !isWordAt unicode place.before && isWordAt unicode place.after
  | .wordEnd unicode => isWordAt unicode place.before && !isWordAt unicode place.after
  | .wordStartHalf unicode => !isWordAt unicode place.before
  | .wordEndHalf unicode => !isWordAt unicode place.after

end Assertion

end Regex

/-- A regular expression.  A repetition without a maximum has no end. -/
inductive Regex where
  | empty
  | oneOf (set : Regex.CharClass)
  | assert (condition : Regex.Assertion)
  | seq (first second : Regex)
  | either (left right : Regex)
  | repeat (min : Nat) (max : Option Nat) (body : Regex)
  deriving DecidableEq, Repr, Inhabited

namespace Regex

/-- Whether the expression matches nothing at all at the place. -/
def skips (place : Place) : Regex → Bool
  | .empty => true
  | .oneOf _ => false
  | .assert condition => condition.holds place
  | .seq first second => first.skips place && second.skips place
  | .either left right => left.skips place || right.skips place
  | .repeat min _ body => min == 0 || body.skips place

def andThen (first second : Regex) : Regex :=
  match first with
  | .empty => second
  | first => .seq first second

/-- What is left to match of the expression after the character behind the place; there is one
alternative for each way to match that character. -/
def step (place : Place) (c : Char) : Regex → List Regex
  | .empty => []
  | .oneOf set => if set.has c then [.empty] else []
  | .assert _ => []
  | .seq first second =>
    (first.step place c).map (·.andThen second) ++
      if first.skips place then second.step place c else []
  | .either left right => left.step place c ++ right.step place c
  | .repeat min max body =>
    if max = some 0 then []
    else
      let rest := .repeat (if body.skips place then 0 else min - 1) (max.map (· - 1)) body
      (body.step place c).map (·.andThen rest)

def distinct (states : List Regex) : List Regex :=
  states.foldr (fun state kept => if kept.contains state then kept else state :: kept) []

/-- Whether one of the alternatives matches from here on, or the expression does from here or a
later place. -/
def searchFrom (expression : Regex) (before : Option Char) (states : List Regex) :
    List Char → Bool
  | [] => (expression :: states).any (·.skips ⟨before, none⟩)
  | c :: rest =>
    let place : Place := ⟨before, some c⟩
    let current := distinct (expression :: states)
    current.any (·.skips place) ||
      searchFrom expression (some c) (current.flatMap (·.step place c)) rest

/-- Whether the expression matches some part of the text. -/
def isFoundIn (expression : Regex) (text : List Char) : Bool :=
  searchFrom expression none [] text

/-- About how much room a program for the expression takes. -/
def size : Regex → Nat
  | .empty => 32
  | .oneOf set => set.size
  | .assert _ => 32
  | .seq first second => first.size + second.size
  | .either left right => 32 + left.size + right.size
  | .repeat min max body => 32 + (max.getD (min + 1)) * body.size

/-- The greatest size of an expression. -/
def sizeLimit : Nat := 10 * 1024 * 1024

end Regex

end DocContract
