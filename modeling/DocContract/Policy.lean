import DocContract.Json.Value
import DocContract.Text.Blank

namespace DocContract

open DocContract.Text

inductive Setting where
  | flag (value : Bool)
  | word (text : String)
  | other
  deriving DecidableEq, Repr

def Setting.ofJson : Json → Setting
  | .bool value => .flag value
  | .string text => .word text
  | _ => .other

/-- Why a setting has no meaning: the word is unknown, or it is neither a word nor a flag. -/
inductive SettingFault where
  | unknownWord (word : String)
  | wrongShape
  deriving DecidableEq, Repr

/-- The word of a setting as it is looked up: without blanks around it and in lower case. -/
def settingWord (text : String) : String :=
  String.ofList ((trimChars text.toList).map Char.toLower)

/-- Whether something is required, may be there or not, or must not be there. -/
inductive Policy where
  | required
  | allowed
  | prohibited
  deriving DecidableEq, Repr, Inhabited

namespace Policy

def name : Policy → String
  | required => "required"
  | allowed => "allowed"
  | prohibited => "prohibited"

/-- The part of the policy that is broken when the thing is there, or when it is not. -/
def violation (policy : Policy) (present : Bool) : Option Policy :=
  match policy, present with
  | required, false => some required
  | prohibited, true => some prohibited
  | _, _ => none

def ofWord? : String → Option Policy
  | "required" | "require" => some required
  | "allowed" | "allow" | "optional" => some allowed
  | "prohibited" | "prohibit" | "forbidden" => some prohibited
  | _ => none

/-- Reads a setting: a flag requires or prohibits. -/
def ofSetting : Setting → Except SettingFault Policy
  | .flag true => .ok required
  | .flag false => .ok prohibited
  | .word text =>
    match ofWord? (settingWord text) with
    | some policy => .ok policy
    | none => .error (.unknownWord (settingWord text))
  | .other => .error .wrongShape

def faultMessage : SettingFault → String
  | .unknownWord word =>
    "invalid policy `" ++ word ++ "` (expected required|allowed|prohibited)"
  | .wrongShape => "data did not match any variant of untagged enum PolicyRepr"

end Policy

/-- Whether identifiers must, may or must not be referred to from documents of some kind. -/
inductive Coverage where
  | required
  | optional
  | prohibited
  deriving DecidableEq, Repr, Inhabited

namespace Coverage

def name : Coverage → String
  | required => "required"
  | optional => "optional"
  | prohibited => "prohibited"

def ofWord? : String → Option Coverage
  | "required" => some required
  | "optional" | "allowed" => some optional
  | "prohibited" | "forbidden" => some prohibited
  | _ => none

/-- Reads a setting: a flag requires or leaves open. -/
def ofSetting : Setting → Except SettingFault Coverage
  | .flag true => .ok required
  | .flag false => .ok optional
  | .word text =>
    match ofWord? (settingWord text) with
    | some coverage => .ok coverage
    | none => .error (.unknownWord (settingWord text))
  | .other => .error .wrongShape

def faultMessage : SettingFault → String
  | .unknownWord word =>
    "invalid coverage `" ++ word ++ "` (expected required|optional|prohibited)"
  | .wrongShape => "data did not match any variant of untagged enum CoverageRepr"

end Coverage

end DocContract
