import DocContract.Command.Rule

namespace DocContract.Command

/-- What help can be asked about: the program, a command, or the help itself. -/
inductive Topic where
  | program
  | command (name : Name)
  | help
  deriving DecidableEq, Repr, Inhabited

/-- A line of a list: what is described, with two blanks in front, and its description. -/
abbrev Row := String × String

/-- The text with blanks behind it up to the width. -/
def padTo (width : Nat) (text : String) : String :=
  String.ofList (text.toList.rightpad width ' ')

def widest (rows : List Row) : Nat :=
  rows.foldl (fun width row => max width row.1.length) 0

def besideRows (rows : List Row) : List String :=
  rows.map fun (term, help) => "  " ++ padTo (widest rows) term ++ "  " ++ help

/-- Each description on the line below its term. -/
def belowRows (rows : List Row) : List String :=
  rows.flatMap fun (term, help) => ["  " ++ term, "          " ++ help]

/-- How wide the text may be before descriptions go below their terms. -/
def lineWidth : Nat := 100

/-- Whether a description is too long for what is left of its line, where the terms with the blanks
around them take more than two fifths of it. -/
def needsBelow (rows : List Row) : Bool :=
  let taken := widest rows + 4
  2 * lineWidth < 5 * taken && rows.any fun row => lineWidth - taken < row.2.length

/-- The rows of a list with a title over them. -/
def listing (title : String) (rows : List Row) : List String :=
  if rows.isEmpty then []
  else "" :: title :: if needsBelow rows then belowRows rows else besideRows rows

/-- The option as it is written, behind the place of its short form. -/
def OptionRule.term (rule : OptionRule) : String :=
  "    --" ++ rule.name ++ match rule.valueName with
    | some value => " <" ++ value ++ ">"
    | none => ""

def helpRow : Row := ("-h, --help", "Print help")

def CommandRule.helpLines (rule : CommandRule) : List String :=
  [rule.about, "", "Usage: cpt " ++ rule.name ++ " " ++ rule.usage] ++
  listing "Arguments:" (rule.operand.map fun operand => (operand.name, operand.help)).toList ++
  listing "Options:" (rule.options.map (fun option => (option.term, option.help)) ++ [helpRow])

def helpAbout : String := "Print this message or the help of the given subcommand(s)"

def Topic.lines : Topic → List String
  | .program =>
    ["cpt: compile blueprints into constraints and validate documents against them", "",
      "Usage: cpt <COMMAND>"] ++
    listing "Commands:"
      (Name.all.map (fun name => (name.rule.name, name.rule.about)) ++ [("help", helpAbout)]) ++
    listing "Options:" [helpRow, ("-V, --version", "Print version")]
  | .command name => name.rule.helpLines
  | .help =>
    [helpAbout, "", "Usage: cpt help [COMMAND]..."] ++
    listing "Arguments:" [("[COMMAND]...", "Print help for the subcommand(s)")]

def Topic.text (topic : Topic) : String :=
  String.join (topic.lines.map (· ++ "\n"))

def versionText : String := "cpt 0.1.0\n"

end DocContract.Command
