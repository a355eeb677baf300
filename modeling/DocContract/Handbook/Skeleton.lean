import DocContract.Handbook.Rules
import DocContract.Text.Slug

namespace DocContract.Handbook

open DocContract.Blueprint DocContract.Text

/-- What a skeleton takes from the markers: the title of a heading, and the body of any other
marker. -/
structure Selection where
  title : HeadingDeclaration → Option String
  body : Marker → Option String

structure Title where
  level : UInt8
  text : String
  deriving DecidableEq, Repr

/-- The title that the marker has in the skeleton, if it is a heading with one. -/
def Selection.titleOf (selection : Selection) (marker : Marker) : Option Title :=
  match marker.payload with
  | .heading declaration => (selection.title declaration).map fun text => ⟨declaration.level, text⟩
  | _ => none

def Selection.titles (selection : Selection) (markers : List Marker) : List Title :=
  markers.filterMap selection.titleOf

/-- The link to a heading in the table of contents. -/
def contentsEntry (title : Title) : String :=
  line (String.ofList (List.replicate (2 * (title.level.toNat - 2)) ' ') ++
    "- [" ++ title.text ++ "](#" ++ anchor title.text ++ ")")

/-- The table of contents of the headings below the first level. -/
def renderContents (titles : List Title) : String :=
  line "## Table of Contents\n" ++
    String.join ((titles.filter fun title => 2 ≤ title.level).map contentsEntry)

def Title.render (title : Title) : String :=
  line (hashes title.level ++ " " ++ title.text)

/-- The parts of a skeleton.  The table of contents is due until it has been put behind the first
heading of level one. -/
def Selection.parts (selection : Selection) (contents : String) (due : Bool) :
    List Marker → List String
  | [] => []
  | marker :: rest =>
    match marker.payload with
    | .heading _ =>
      match selection.titleOf marker with
      | none => selection.parts contents due rest
      | some title =>
        if due && title.level == 1 then
          (title.render ++ "\n" ++ contents) :: selection.parts contents false rest
        else title.render :: selection.parts contents due rest
    | _ => (selection.body marker).toList ++ selection.parts contents due rest

/-- The skeleton of a blueprint: its parts with an empty line between them.  Where no heading has
the first level, a table of contents stands in front. -/
def renderSkeleton (selection : Selection) (blueprint : Blueprint) : String :=
  let titles := selection.titles blueprint.markers
  let contents := renderContents titles
  let parts := selection.parts contents blueprint.header.toc blueprint.markers
  let body := "\n".intercalate (parts.map fun part => line (trimEnd part))
  if blueprint.header.toc && !titles.isEmpty && !(titles.any fun title => title.level == 1) then
    contents ++ "\n" ++ body
  else body

/-- The template has the headings' template titles, prompts and the templates of identifiers. -/
def templateSelection : Selection where
  title := HeadingDeclaration.templateTitle
  body marker :=
    match marker.payload with
    | .prompt => marker.markdown
    | .id declaration => declaration.template
    | _ => none

/-- The example has the first example title of each heading, and the examples. -/
def exampleSelection : Selection where
  title declaration := declaration.examples.head?.or declaration.templateTitle
  body marker :=
    match marker.payload with
    | .sample => marker.markdown
    | _ => none

def renderTemplate (blueprint : Blueprint) : String :=
  renderSkeleton templateSelection blueprint

def renderExample (blueprint : Blueprint) : String :=
  renderSkeleton exampleSelection blueprint

end DocContract.Handbook
