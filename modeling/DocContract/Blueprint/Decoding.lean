import DocContract.Blueprint.Payload
import DocContract.Text.Quoted
import DocContract.Toml.Value

/-!
Reading what a marker declares from its table.  Entries are read in their order, so the first one
that does not fit is reported; entries under other keys do not count.
-/

namespace DocContract.Blueprint

open DocContract.Sorted DocContract.Text DocContract.Toml

/-- What a value must be. -/
inductive Shape where
  | string
  | boolean
  | byte
  | sequence
  | map
  | section
  | reference
  deriving DecidableEq, Repr

def Shape.name : Shape → String
  | .string => "a string"
  | .boolean => "a boolean"
  | .byte => "u8"
  | .sequence => "a sequence"
  | .map => "a map"
  | .section => "struct Section"
  | .reference => "struct ReferencePayload"

/-- Why a table does not declare what its marker should. -/
inductive DecodeFault where
  | wrongType (found : Value) (expected : Shape)
  | byteRange (value : Int)
  | missingKey
  | emptySection
  | longSequence (length : Nat)
  | policy (fault : SettingFault)
  | coverage (fault : SettingFault)
  | version

/-- The kind and content of a value, as messages name it. -/
def describe : Value → String
  | .string text => "string " ++ quoted text
  | .integer value => "integer `" ++ intText value ++ "`"
  | .float value => "floating point `" ++ value.pointedText ++ "`"
  | .boolean value => "boolean `" ++ (if value then "true" else "false") ++ "`"
  | .datetime value => "string " ++ quoted value.text
  | .array _ => "sequence"
  | .table _ => "map"

def DecodeFault.message : DecodeFault → String
  | .wrongType found expected =>
    "invalid type: " ++ describe found ++ ", expected " ++ expected.name
  | .byteRange value => "invalid value: integer `" ++ intText value ++ "`, expected u8"
  | .missingKey => "missing field `key`"
  | .emptySection => "invalid length 0, expected struct Section with 2 elements"
  | .longSequence length =>
    "invalid length " ++ natText length ++ ", expected fewer elements in array"
  | .policy fault => Policy.faultMessage fault
  | .coverage fault => Coverage.faultMessage fault
  | .version => "data did not match any variant of untagged enum VersionRepr"

abbrev Decoded := Except DecodeFault

/-- A text; a date or time is the text that writes it. -/
def text : Value → Decoded String
  | .string text => .ok text
  | .datetime value => .ok value.text
  | found => .error (.wrongType found .string)

def flag : Value → Decoded Bool
  | .boolean value => .ok value
  | found => .error (.wrongType found .boolean)

def byte : Value → Decoded UInt8
  | .integer value =>
    if 0 ≤ value ∧ value < 256 then .ok (UInt8.ofNat value.toNat) else .error (.byteRange value)
  | found => .error (.wrongType found .byte)

/-- The items of an array, each read in the same way. -/
def list (read : Value → Decoded α) : Value → Decoded (List α)
  | .array items => items.mapM read
  | found => .error (.wrongType found .sequence)

/-- The way a policy or coverage is written. -/
def settingOf : Value → Setting
  | .boolean value => .flag value
  | .string text => .word text
  | .datetime value => .word value.text
  | _ => .other

def policy (value : Value) : Decoded Policy :=
  (Policy.ofSetting (settingOf value)).mapError .policy

def coverage (value : Value) : Decoded Coverage :=
  (Coverage.ofSetting (settingOf value)).mapError .coverage

/-- A version: a text, or the text of a number. -/
def version : Value → Decoded String
  | .string text => .ok text
  | .datetime value => .ok value.text
  | .integer value => .ok (intText value)
  | .float value => .ok value.text
  | _ => .error .version

/-- Reads a table entry by entry into a record that starts out empty. -/
def record (field : α → String → Value → Decoded α) (empty : α) (entries : Entries) : Decoded α :=
  entries.foldlM (fun known (key, value) => field known key value) empty

def headerField (header : Header) (key : String) (value : Value) : Decoded Header :=
  match key with
  | "artifact" => return { header with artifact := some (← text value) }
  | "kit" => return { header with kit := some (← text value) }
  | "version" => return { header with version := some (← version value) }
  | "toc" => return { header with toc := ← flag value }
  | "name" => return { header with name := some (← text value) }
  | "description" => return { header with description := some (← text value) }
  | _ => return header

def headingField (heading : HeadingDeclaration) (key : String) (value : Value) :
    Decoded HeadingDeclaration :=
  match key with
  | "id" => return { heading with id := some (← text value) }
  | "level" => return { heading with declaredLevel := some (← byte value) }
  | "pattern" => return { heading with pattern := some (← text value) }
  | "description" => return { heading with description := some (← text value) }
  | "required" => return { heading with required := some (← flag value) }
  | "multiple" => return { heading with multiple := some (← policy value) }
  | "numbered" => return { heading with numbered := some (← policy value) }
  | "prev" => return { heading with prev := some (← text value) }
  | "next" => return { heading with next := some (← text value) }
  | "template" => return { heading with template := some (← text value) }
  | "examples" => return { heading with examples := ← list text value }
  | _ => return heading

def referenceField (reference : ReferenceDeclaration) (key : String) (value : Value) :
    Decoded ReferenceDeclaration :=
  match key with
  | "coverage" => return { reference with coverage := some (← coverage value) }
  | "task" => return { reference with task := some (← policy value) }
  | "priority" => return { reference with priority := some (← policy value) }
  | "headings" => return { reference with headings := ← list text value }
  | _ => return reference

def positional (field : α → String → Value → Decoded α) (keys : List String) (empty : α)
    (items : List Value) : Decoded α := do
  let known ← record field empty (keys.zip items)
  if keys.length < items.length then .error (.longSequence items.length) else .ok known

/-- The keys of a reference in their order. -/
def referenceKeys : List String := ["coverage", "task", "priority", "headings"]

def reference : Value → Decoded ReferenceDeclaration
  | .table entries => record referenceField {} entries
  | .array items => positional referenceField referenceKeys {} items
  | found => .error (.wrongType found .reference)

/-- The references of an identifier, by the kinds of artifacts that refer to it. -/
def references : Value → Decoded (KeyMap ReferenceDeclaration)
  | .table entries => do
    let pairs ← entries.mapM fun (key, value) => return (key, ← reference value)
    return KeyMap.ofList pairs
  | found => .error (.wrongType found .map)

def idField (id : IdDeclaration) (key : String) (value : Value) : Decoded IdDeclaration :=
  match key with
  | "kind" => return { id with kind := some (← text value) }
  | "name" => return { id with name := some (← text value) }
  | "description" => return { id with description := some (← text value) }
  | "required" => return { id with required := ← flag value }
  | "task" => return { id with task := some (← policy value) }
  | "priority" => return { id with priority := some (← policy value) }
  | "to_code" => return { id with toCode := ← flag value }
  | "template" => return { id with template := some (← text value) }
  | "headings" => return { id with headings := ← list text value }
  | "nested" => return { id with nested := ← list text value }
  | "references" => return { id with references := ← references value }
  | _ => return id

/-- A section while its table is read: its key may still be missing. -/
structure SectionDraft where
  key : Option String := none
  title : Option String := none

def sectionField (draft : SectionDraft) (key : String) (value : Value) : Decoded SectionDraft :=
  match key with
  | "key" => return { draft with key := some (← text value) }
  | "title" => return { draft with title := some (← text value) }
  | _ => return draft

def sectionOf : Value → Decoded Section
  | .table entries => do
    let draft ← record sectionField {} entries
    match draft.key with
    | some key => return ⟨key, draft.title⟩
    | none => .error .missingKey
  | .array items => do
    let draft ← positional sectionField ["key", "title"] {} items
    match draft.key with
    | some key => return ⟨key, draft.title⟩
    | none => .error .emptySection
  | found => .error (.wrongType found .section)

def ruleField (rule : RuleDeclaration) (key : String) (value : Value) : Decoded RuleDeclaration :=
  match key with
  | "kind" => return { rule with kind := some (← text value) }
  | "section" => return { rule with subject := some (← text value) }
  | _ => return rule

def checkField (check : CheckDeclaration) (key : String) (value : Value) :
    Decoded CheckDeclaration :=
  match key with
  | "id" => return { check with id := some (← text value) }
  | "title" => return { check with title := some (← text value) }
  | "severity" => return { check with severity := some (← text value) }
  | "domain" => return { check with domain := some (← text value) }
  | _ => return check

/-- The sections that a table lists under the key. -/
def sectionsField (wanted : String) (sections : List Section) (key : String) (value : Value) :
    Decoded (List Section) :=
  if key = wanted then list sectionOf value else .ok sections

/-- What a marker of the kind declares by its table. -/
def Payload.decode (kind : MarkerKind) (entries : Entries) : Decoded Payload :=
  match kind with
  | .blueprint => return .blueprint (← record headerField {} entries)
  | .heading => return .heading (← record headingField {} entries)
  | .id => return .id (← record idField {} entries)
  | .rules => return .rules (← record (sectionsField "sections") [] entries)
  | .rule => return .rule (← record ruleField {} entries)
  | .checklist => return .checklist (← record (sectionsField "domains") [] entries)
  | .check => return .check (← record checkField {} entries)
  | .prompt => return .prompt
  | .sample => return .sample

end DocContract.Blueprint
