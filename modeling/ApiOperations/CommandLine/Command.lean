import ApiOperations.CommandLine.Arguments
import ApiOperations.Description.Fault
import ApiOperations.Model.Grouping

/-!
The commands of the program and how they are called: validate a document, inspect its model, write a
settings file, or print completions for a shell.
-/

namespace ApiOperations.CommandLine

inductive Shell where
  | bash
  | elvish
  | fish
  | powershell
  | zsh
  deriving DecidableEq

inductive Command where
  | validate (input : Option String)
  | inspect (input : Option String) (format : TextFormat) (grouping : Grouping)
  /-- Write the settings file, also over one that is there if forced. -/
  | init (force : Bool)
  | completions (shell : Shell)
  deriving DecidableEq

/-! ### Words -/

def formats : List (String × TextFormat) :=
  [("yaml", .yaml), ("json", .json)]

def groupings : List (String × Grouping) :=
  [("service", .service), ("operation", .operation), ("route", .route)]

def shells : List (String × Shell) :=
  [("bash", .bash), ("elvish", .elvish), ("fish", .fish), ("powershell", .powershell), ("zsh", .zsh)]

/-- The names in a list of named values. -/
def words {α : Type} (names : List (String × α)) : Domain :=
  .oneOf (names.map Prod.fst)

/-! ### Grammars -/

def inputSwitch : Switch :=
  ⟨"input", some 'i', some ⟨"INPUT", .text, none⟩,
    "Path to the spec file (YAML or JSON); defaults to the config `input`"⟩

def validateGrammar : Grammar :=
  ⟨"validate", "Parse and transform a document, reporting failures", [inputSwitch], none⟩

def inspectGrammar : Grammar :=
  ⟨"inspect", "Print the operation models of a document",
    [inputSwitch,
      ⟨"format", none, some ⟨"FORMAT", words formats, some "yaml"⟩, "Output format"⟩,
      ⟨"group-by", none, some ⟨"GROUP_BY", words groupings, some "service"⟩,
        "How operations are grouped in the output"⟩],
    none⟩

def initGrammar : Grammar :=
  ⟨"init", "Initialize a new opmodel configuration",
    [⟨"force", none, none, "Overwrite an existing config file"⟩], none⟩

def completionsGrammar : Grammar :=
  ⟨"completions", "Generate shell completions", [],
    some ⟨"SHELL", words shells, "Shell to generate completions for"⟩⟩

/-- What a given value means. -/
def meaning {α : Type} (names : List (String × α)) (value : Option String) : Except Stop α :=
  match value.bind fun v => names.lookup v with
  | some x => .ok x
  | none => .error .misuse

def readValidate (args : List String) : Except Stop Command := do
  let given ← validateGrammar.given args
  return .validate (given.switches.lookup "input")

def readInspect (args : List String) : Except Stop Command := do
  let given ← inspectGrammar.given args
  let format ← meaning formats (inspectGrammar.value? given "format")
  let grouping ← meaning groupings (inspectGrammar.value? given "group-by")
  return .inspect (given.switches.lookup "input") format grouping

def readInit (args : List String) : Except Stop Command := do
  let given ← initGrammar.given args
  return .init (given.has "force")

def readCompletions (args : List String) : Except Stop Command := do
  let given ← completionsGrammar.given args
  return .completions (← meaning shells given.operand)

/-- The commands with the readers of their arguments. -/
def commands : List (Grammar × (List String → Except Stop Command)) :=
  [(validateGrammar, readValidate), (inspectGrammar, readInspect), (initGrammar, readInit),
    (completionsGrammar, readCompletions)]

def command? (name : String) : Option (Grammar × (List String → Except Stop Command)) :=
  commands.find? (·.1.name == name)

/-! ### Calls -/

/-- What help is wanted for. -/
inductive Topic where
  | program
  | command (g : Grammar)
  /-- The command `help` itself. -/
  | help

/-- What a call of the program asks for. -/
inductive Call where
  | run (c : Command)
  | help (topic : Topic)
  | version
  | misuse

namespace Call

/-- The arguments after the word `help`. -/
def ofHelp : List String → Call
  | [] => help .program
  | [name] =>
    if name = "help" then help .help
    else
      match command? name with
      | some (g, _) => help (.command g)
      | none => misuse
  | _ => misuse

/-- A call whose first argument looks like an option; the program itself has two of them. -/
def ofSwitch : Form → Call
  | .long name none =>
    if name = "help".toList then help .program
    else if name = "version".toList then version
    else misuse
  | .letters ('h' :: _) => help .program
  | .letters ('V' :: _) => version
  | _ => misuse

/-- What the arguments of the program ask for. -/
def ofArguments : List String → Call
  | [] => misuse
  | name :: args =>
    if name = "help" then ofHelp args
    else
      match command? name with
      | none => ofSwitch (Form.ofText name)
      | some (g, read) =>
        match read args with
        | .ok c => run c
        | .error .help => help (.command g)
        | .error .misuse => misuse

end Call

end ApiOperations.CommandLine
