import DocContract.Blueprint.Block
import DocContract.Pathname

namespace DocContract

open DocContract.Text

/-- A blueprint that has been read.  One without a declared artifact describes the code base. -/
structure Blueprint where
  path : String
  markers : List Blueprint.Marker
  artifactKind : String
  header : Blueprint.Header
  codebase : Bool
  problems : List Blueprint.Problem

namespace Blueprint

/-- The members of the results that are not errors. -/
def successes : List (Except ε α) → List α
  | [] => []
  | .ok value :: rest => value :: successes rest
  | .error _ :: rest => successes rest

def failures : List (Except ε α) → List ε
  | [] => []
  | .ok _ :: rest => failures rest
  | .error fault :: rest => fault :: failures rest

/-- The header that the first blueprint marker declares. -/
def headerOf? (markers : List Marker) : Option Header :=
  markers.findSome? fun marker =>
    match marker.payload with
    | .blueprint header => some header
    | _ => none

/-- Reads the text of the blueprint with that path.  Without a header the name of the file names the
artifact. -/
def parse (path text : String) : Blueprint :=
  let results := (blocks 1 (splitLines text.toList)).map Block.read
  let markers := successes results
  let header := headerOf? markers
  { path, markers
    artifactKind := match header with
      | some header => header.artifact.getD ""
      | none => (Pathname.fileStem? path).getD ""
    header := header.getD {}
    codebase := (header.bind (·.artifact)).isNone
    problems := failures results }

def hasErrors (blueprint : Blueprint) : Bool :=
  !blueprint.problems.isEmpty

def errorMessages (blueprint : Blueprint) : List String :=
  blueprint.problems.map (·.message)

def markersOf (blueprint : Blueprint) (kind : MarkerKind) : List Marker :=
  blueprint.markers.filter fun marker => marker.kind == kind

/-- The name of the blueprint in generated documents. -/
def title (blueprint : Blueprint) : String :=
  if blueprint.artifactKind ≠ "" then blueprint.artifactKind
  else blueprint.header.kit.getD "codebase"

end Blueprint

end DocContract
