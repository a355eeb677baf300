import DocContract.Outline.Heading
import DocContract.Schema.Model
import DocContract.TitlePattern

namespace DocContract.Outline

/-- Which titles a slot takes: all, those with a pattern, or none since the pattern cannot be
read. -/
inductive Matcher where
  | any
  | title (pattern : TitlePattern)
  | never
  deriving DecidableEq, Repr, Inhabited

namespace Matcher

def ofPattern : Option String → Matcher
  | none => .any
  | some pattern =>
    match TitlePattern.compile? pattern with
    | some compiled => .title compiled
    | none => .never

def accepts (matcher : Matcher) (title : String) : Bool :=
  match matcher with
  | .any => true
  | .title pattern => pattern.accepts title
  | .never => false

end Matcher

structure Slot where
  level : UInt8
  matcher : Matcher
  deriving DecidableEq, Repr, Inhabited

namespace Slot

def ofRule (rule : HeadingRule) : Slot where
  level := rule.level
  matcher := Matcher.ofPattern rule.pattern

def accepts (slot : Slot) (heading : Heading) : Bool :=
  heading.level == slot.level && slot.matcher.accepts heading.title

end Slot

end DocContract.Outline
