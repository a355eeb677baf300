import DocContract.Blueprint.Document

namespace DocContract.Handbook

open DocContract.Blueprint

def line (text : String) : String :=
  text ++ "\n"

/-- Whether the entry that names this key belongs to the section. -/
def belongsTo (group : Section) (named : Option String) : Bool :=
  named == some group.key

def entriesOf (named : α → Option String) (entries : List α) (group : Section) : List α :=
  entries.filter fun entry => belongsTo group (named entry)

def otherEntries (named : α → Option String) (entries : List α) (groups : List Section) : List α :=
  entries.filter fun entry => !(groups.any fun group => belongsTo group (named entry))

/-- The body of a marker; none is an empty one. -/
def bodyOf (marker : Marker) : String :=
  marker.markdown.getD ""

end DocContract.Handbook
