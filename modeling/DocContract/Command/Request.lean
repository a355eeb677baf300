import DocContract.Command.Help
import DocContract.Text.Line

namespace DocContract.Command

open DocContract.Text

/-- Blueprints to be compiled into the schema file `out`. -/
structure CompileRequest where
  blueprints : List String
  out : String
  json : Bool
  deriving DecidableEq, Repr, Inhabited

/-- A blueprint whose files are generated in the folder. -/
structure GenerateRequest where
  blueprint : String
  folder : String
  json : Bool
  deriving DecidableEq, Repr, Inhabited

/-- What documents are validated and against what, besides what the configuration says. -/
structure ValidateRequest where
  config : Option String
  schema : Option String
  systems : List String
  externalSystems : List String
  artifacts : List String
  codeReferences : List String
  json : Bool
  deriving DecidableEq, Repr, Inhabited

structure ScanRequest where
  file : String
  json : Bool
  deriving DecidableEq, Repr, Inhabited

inductive Request where
  | compile (request : CompileRequest)
  | generate (request : GenerateRequest)
  | validate (request : ValidateRequest)
  | scan (request : ScanRequest)
  | help (topic : Topic)
  | version
  deriving DecidableEq, Repr, Inhabited

inductive UsageFault where
  | noCommand
  | unknownCommand (word : String)
  | unexpected (word : String)
  | repeated (option : String)
  | missingValue (option : String)
  | needlessValue (option : String)
  | missing (name : String)
  deriving DecidableEq, Repr

def UsageFault.message : UsageFault → String
  | .noCommand => "a command is required"
  | .unknownCommand word => "unrecognized subcommand '" ++ word ++ "'"
  | .unexpected word => "unexpected argument '" ++ word ++ "' found"
  | .repeated option => "the argument '--" ++ option ++ "' cannot be used multiple times"
  | .missingValue option => "a value is required for '--" ++ option ++ "' but none was supplied"
  | .needlessValue option => "unexpected value for '--" ++ option ++ "' found"
  | .missing name => "the required argument " ++ name ++ " was not provided"

/-- What is given to a command: options with their values, which are empty for those without one,
and operands.  If help is asked for, nothing else counts. -/
structure Given where
  options : List (String × String) := []
  operands : List String := []
  help : Bool := false
  deriving DecidableEq, Repr, Inhabited

namespace Given

def has (given : Given) (option : String) : Bool :=
  (given.options.lookup option).isSome

def value? (given : Given) (option : String) : Option String :=
  given.options.lookup option

def values (given : Given) (option : String) : List String :=
  (given.options.filter fun pair => pair.1 == option).map Prod.snd

def withOption (given : Given) (rule : OptionRule) (value : String) : Except UsageFault Given :=
  if given.has rule.name ∧ !rule.repeats then .error (.repeated rule.name)
  else .ok { given with options := given.options ++ [(rule.name, value)] }

/-- One more operand, if the command takes it. -/
def withOperand (given : Given) (rule : CommandRule) (word : String) : Except UsageFault Given :=
  if rule.operand.any fun operand => operand.many || given.operands.isEmpty then
    .ok { given with operands := given.operands ++ [word] }
  else .error (.unexpected word)

end Given

inductive Word where
  | plain
  | separator
  | short (letter : Char)
  | long (name : String) (value : Option String)
  deriving DecidableEq, Repr, Inhabited

/-- What kind of word it is.  A single dash is a plain word. -/
def Word.ofText (text : String) : Word :=
  match text.toList with
  | ['-', '-'] => .separator
  | '-' :: '-' :: rest =>
    match splitAt '=' rest with
    | name :: part :: parts =>
      .long (String.ofList name) (some (String.ofList (joinWith '=' (part :: parts))))
    | _ => .long (String.ofList rest) none
  | '-' :: letter :: _ => .short letter
  | _ => .plain

/-- What a word of the form `--name` or `--name=value` gives to a command, and the option whose
value the next word must be. -/
def readLong (rule : CommandRule) (given : Given) (name : String) (attached : Option String) :
    Except UsageFault (Given × Option OptionRule) :=
  match rule.options.find? fun option => option.name == name with
  | none => .error (.unexpected ("--" ++ name))
  | some option =>
    match option.valueName, attached with
    | none, none => (given.withOption option "").map (·, none)
    | none, some _ => .error (.needlessValue name)
    | some _, some value => (given.withOption option value).map (·, none)
    | some _, none => .ok (given, some option)

/-- Reads the words behind the name of a command, where the first may have to be the value of an
option.  All words behind a separator are operands. -/
def readWords (rule : CommandRule) (given : Given) (awaiting : Option OptionRule) :
    List String → Except UsageFault Given
  | [] =>
    match awaiting with
    | none => .ok given
    | some option => .error (.missingValue option.name)
  | word :: rest =>
    match awaiting, Word.ofText word with
    | some option, .plain => do readWords rule (← given.withOption option word) none rest
    | some option, _ => .error (.missingValue option.name)
    | none, .plain => do readWords rule (← given.withOperand rule word) none rest
    | none, .separator => rest.foldlM (fun given word => given.withOperand rule word) given
    | none, .short 'h' => .ok { given with help := true }
    | none, .short _ => .error (.unexpected word)
    | none, .long "help" none => .ok { given with help := true }
    | none, .long "help" (some _) => .error (.needlessValue "help")
    | none, .long name attached => do
      let (given, awaiting) ← readLong rule given name attached
      readWords rule given awaiting rest

/-- The value of an option or operand that must be given. -/
def required (name : String) : Option String → Except UsageFault String
  | some value => .ok value
  | none => .error (.missing name)

def Name.request (name : Name) (given : Given) : Except UsageFault Request := do
  if given.help then return .help (.command name)
  let json := given.has "json"
  match name with
  | .compile =>
    let _ ← required "<BLUEPRINTS>..." given.operands.head?
    return .compile ⟨given.operands, (given.value? "out").getD "constraints.json", json⟩
  | .generate =>
    return .generate
      { folder := ← required "--out-dir <OUT_DIR>" (given.value? "out-dir")
        blueprint := ← required "<BLUEPRINT>" given.operands.head?
        json }
  | .validate =>
    return .validate
      { config := given.value? "config"
        schema := given.value? "schema"
        systems := given.values "system"
        externalSystems := given.values "external-system"
        artifacts := given.values "artifact"
        codeReferences := given.values "code-ref"
        json }
  | .scan => return .scan ⟨← required "<FILE>" given.operands.head?, json⟩

/-- The topic that the words behind `help` name. -/
def topicOf : List String → Except UsageFault Topic
  | [] => .ok .program
  | word :: rest => do
    let topic ←
      if word = "help" then .ok Topic.help
      else match Name.ofText? word with
        | some name => .ok (.command name)
        | none => .error (.unknownCommand word)
    match rest with
    | [] => return topic
    | next :: _ => throw (.unknownCommand next)

/-- What the words of the command line ask for. -/
def Request.ofWords : List String → Except UsageFault Request
  | [] => .error .noCommand
  | word :: rest =>
    match Word.ofText word with
    | .short 'h' => .ok (.help .program)
    | .short 'V' => .ok .version
    | .long "help" none => .ok (.help .program)
    | .long "version" none => .ok .version
    | .plain =>
      if word = "help" then (topicOf rest).map .help
      else match Name.ofText? word with
        | some name => do name.request (← readWords name.rule {} none rest)
        | none => .error (.unknownCommand word)
    | _ => .error (.unexpected word)

end DocContract.Command
