namespace DocContract.Command

/-- An option of a command.  One without a value is given or not; one that repeats may be given more
than once. -/
structure OptionRule where
  name : String
  valueName : Option String := none
  repeats : Bool := false
  help : String
  deriving DecidableEq, Repr, Inhabited

/-- What a command takes besides its options: one value or, if there may be many, at least one. -/
structure OperandRule where
  name : String
  many : Bool := false
  help : String
  deriving DecidableEq, Repr, Inhabited

/-- A command with all it takes.  The last part of its usage line tells what must be given. -/
structure CommandRule where
  name : String
  about : String
  usage : String
  operand : Option OperandRule := none
  options : List OptionRule
  deriving DecidableEq, Repr, Inhabited

inductive Name where
  | compile
  | generate
  | validate
  | scan
  deriving DecidableEq, Repr, Inhabited

def Name.all : List Name := [.compile, .generate, .validate, .scan]

/-- The option of all commands that asks for JSON. -/
def jsonOption : OptionRule where
  name := "json"
  help := "Output as JSON"

def Name.rule : Name → CommandRule
  | .compile =>
    { name := "compile"
      about := "Compile kit blueprints into one constraint schema"
      usage := "[OPTIONS] <BLUEPRINTS>..."
      operand := some
        { name := "<BLUEPRINTS>...", many := true, help := "Blueprint markdown files" }
      options :=
        [{ name := "out", valueName := some "OUT",
           help := "Schema output path [default: constraints.json]" }, jsonOption] }
  | .generate =>
    { name := "generate"
      about := "Render rules, checklist, template, and example for one blueprint"
      usage := "[OPTIONS] --out-dir <OUT_DIR> <BLUEPRINT>"
      operand := some { name := "<BLUEPRINT>", help := "Blueprint markdown file" }
      options :=
        [{ name := "out-dir", valueName := some "OUT_DIR",
           help := "Directory receiving the rendered documents" }, jsonOption] }
  | .validate =>
    { name := "validate"
      about := "Validate documents against a compiled schema"
      usage := "[OPTIONS]"
      options :=
        [{ name := "config", valueName := some "CONFIG",
           help := "Project config (defaults to ./cpt.toml when present)" },
         { name := "schema", valueName := some "SCHEMA",
           help := "Compiled schema path (overrides the config)" },
         { name := "system", valueName := some "SYSTEMS", repeats := true,
           help := "Registered system (repeatable)" },
         { name := "external-system", valueName := some "EXTERNAL_SYSTEMS", repeats := true,
           help := "System defined outside the validated set (repeatable)" },
         { name := "artifact", valueName := some "KIND=PATH", repeats := true,
           help := "Document to validate as KIND=PATH (repeatable)" },
         { name := "code-ref", valueName := some "CODE_REFS", repeats := true,
           help := "Identifier referenced from code (repeatable; enables code coverage)" },
         jsonOption] }
  | .scan =>
    { name := "scan"
      about := "Print the headings and identifiers scanned from one markdown file"
      usage := "[OPTIONS] <FILE>"
      operand := some { name := "<FILE>", help := "Markdown file" }
      options := [jsonOption] }

def Name.ofText? (text : String) : Option Name :=
  all.find? fun name => name.rule.name == text

end DocContract.Command
