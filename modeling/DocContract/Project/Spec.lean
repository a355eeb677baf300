import DocContract.Text.Blank
import DocContract.Text.Line

namespace DocContract

open DocContract.Text

structure ArtifactSpec where
  path : String
  kind : String
  deriving DecidableEq, Repr, Inhabited

namespace ArtifactSpec

/-- Reads `KIND=PATH`; neither may be blank. -/
def parse? (text : String) : Option ArtifactSpec :=
  match splitAt '=' text.toList with
  | kind :: rest :: more =>
    let kind := trimChars kind
    let path := trimChars (joinWith '=' (rest :: more))
    if kind.isEmpty ∨ path.isEmpty then none
    else some ⟨String.ofList path, String.ofList kind⟩
  | _ => none

def faultMessage (text : String) : String :=
  "invalid artifact spec `" ++ text ++ "` (expected KIND=PATH)"

end ArtifactSpec

end DocContract
