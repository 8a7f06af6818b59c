import ApiOperations.CommandLine.Command

/-!
Help on the program and its commands: what it is for, how it is called, and two columns that name and
explain everything that may be given.
-/

namespace ApiOperations.CommandLine

def programName : String := "opmodel"

def programVersion : String := "0.3.0"

def programAbout : String := "Build operation models from Swagger 2.0 / OpenAPI 3.x documents"

namespace Help

/-- A heading over two columns, of which the second one is aligned. -/
def columns (heading : String) (rows : List (String × String)) : String :=
  let width := (rows.map fun r => r.1.length).foldl max 0
  let row (r : String × String) : String :=
    "  " ++ r.1 ++ String.ofList (List.replicate (width - r.1.length + 2) ' ') ++ r.2 ++ "\n"
  heading ++ ":\n" ++ String.join (rows.map row)

/-- The values that are listed for a domain. -/
def choices : Domain → String
  | .text => ""
  | .oneOf words => " [possible values: " ++ ", ".intercalate words ++ "]"

/-- An option as it is named and explained. -/
def switchRow (s : Switch) : String × String :=
  let letter := match s.letter with
    | some c => String.ofList ['-', c] ++ ", "
    | none => "    "
  let name := letter ++ "--" ++ s.long
  match s.argument with
  | none => (name, s.about)
  | some a =>
    let usual := match a.usual with
      | some u => " [default: " ++ u ++ "]"
      | none => ""
    (name ++ " <" ++ a.placeholder ++ ">", s.about ++ usual ++ choices a.domain)

def helpRow : String × String := ("-h, --help", "Print help")

/-- The call of a command. -/
def usage (g : Grammar) : String :=
  let switches := if g.switches.isEmpty then "" else " [OPTIONS]"
  let operand := match g.operand with
    | some o => " <" ++ o.placeholder ++ ">"
    | none => ""
  "Usage: " ++ programName ++ " " ++ g.name ++ switches ++ operand ++ "\n"

/-- Help on a command. -/
def ofGrammar (g : Grammar) : String :=
  let operand := match g.operand with
    | some o =>
      columns "Arguments" [("<" ++ o.placeholder ++ ">", o.about ++ choices o.domain)] ++ "\n"
    | none => ""
  g.about ++ "\n\n" ++ usage g ++ "\n" ++ operand ++
    columns "Options" (g.switches.map switchRow ++ [helpRow])

def helpAbout : String := "Print this message or the help of the given subcommand(s)"

/-- The names of the commands with what they are for. -/
def commandRows : List (String × String) :=
  commands.map (fun c => (c.1.name, c.1.about)) ++ [("help", helpAbout)]

def programUsage : String := "Usage: " ++ programName ++ " <COMMAND>\n"

/-- Help on a topic. -/
def text : Topic → String
  | .program =>
    programAbout ++ "\n\n" ++ programUsage ++ "\n" ++ columns "Commands" commandRows ++ "\n" ++
      columns "Options" [helpRow, ("-V, --version", "Print version")]
  | .command g => ofGrammar g
  | .help =>
    helpAbout ++ "\n\nUsage: " ++ programName ++ " help [COMMAND]...\n\n" ++
      columns "Arguments" [("[COMMAND]...", "Print help for the subcommand(s)")]

/-- The script that makes a shell complete the names of the commands. -/
def completions (shell : Shell) : String :=
  let names := " ".intercalate (commandRows.map Prod.fst)
  match shell with
  | .bash => "complete -W '" ++ names ++ "' " ++ programName ++ "\n"
  | .elvish =>
    "set edit:completion:arg-completer[" ++ programName ++ "] = \x7b|@words| put " ++ names ++ " \x7d\n"
  | .fish => "complete -c " ++ programName ++ " -f -n __fish_use_subcommand -a '" ++ names ++ "'\n"
  | .powershell =>
    "Register-ArgumentCompleter -Native -CommandName " ++ programName ++
      " -ScriptBlock \x7b -split '" ++ names ++ "' \x7d\n"
  | .zsh => "compdef '_arguments \"1: :(" ++ names ++ ")\"' " ++ programName ++ "\n"

end Help

end ApiOperations.CommandLine
