import ApiOperations.CommandLine.Command
import ApiOperations.CommandLine.Failure
import ApiOperations.CommandLine.Help
import ApiOperations.Model.Summary
import ApiOperations.Yaml.Writer

/-!
Running commands. What a command does depends on nothing but the files of the folder that it runs in,
and it ends in a report: the code it exits with, what it prints, what it says beside that, and the
settings file that it writes.
-/

namespace ApiOperations.CommandLine

open ApiOperations.Description (Document)

/-! ### Reports -/

structure Report where
  exitCode : Nat
  output : String
  /-- What is said beside the output. -/
  messages : String
  /-- The text for the settings file, if it is written. -/
  settings : Option String

namespace Report

/-- A success that prints only output. -/
def ofOutput (output : String) : Report :=
  ⟨0, output, "", none⟩

/-- A failure after some messages. -/
def ofFailure (before : String) (e : Failure) : Report :=
  ⟨1, "", before ++ e.report, none⟩

end Report

/-! ### Validation -/

/-- The settings that hold in a folder. -/
def settingsIn (folder : Folder) : Except Failure Settings :=
  match Settings.ofFolder folder with
  | .ok s => .ok (s.getD .default)
  | .error fault => .error (.settings fault)

/-- How far validation comes. -/
inductive Validation where
  | unread (e : Failure)
  | unmodelled (d : Document) (e : Failure)
  | passed (d : Document) (api : Api)

/-- Validate the document behind a path, or else the one that the settings name. -/
def validate (folder : Folder) (input : Option String) : Validation :=
  match settingsIn folder with
  | .error e => .unread e
  | .ok s =>
    match Document.ofFile folder (input.getD s.input) with
    | .error fault => .unread (.document fault)
    | .ok d =>
      match Api.ofDocument d s.toOptions with
      | .error e => .unmodelled d (.model (.operation e))
      | .ok api => .passed d api

/-- A number that is counted under a title. -/
def countLine (title : String) (n : Nat) : String :=
  "  " ++ title ++ ": " ++ String.ofList (Nat.toDigits 10 n) ++ "\n"

/-- What is said of a document that can be read. -/
def documentLines (d : Document) : String :=
  "Valid " ++ (if d.isSwagger then "Swagger" else "OpenAPI") ++ " " ++ d.version ++ " document: " ++
    d.info.title ++ "\n" ++ "  Version: " ++ d.info.version ++ "\n" ++ countLine "Paths" d.paths.length

/-- What is said of a model. -/
def modelLines (api : Api) : String :=
  countLine "Operations" api.operations.length ++ countLine "Services" api.modules.length ++
    if api.failures.isEmpty then "Validation successful.\n"
    else
      countLine "Skipped" api.failures.length ++
        String.join (api.failures.map fun e => "    " ++ e.message ++ "\n") ++
        "Validation finished with skipped operations.\n"

def Validation.report : Validation → Report
  | unread e => .ofFailure "" e
  | unmodelled d e => .ofFailure (documentLines d) e
  | passed d api => ⟨0, "", documentLines d ++ modelLines api, none⟩

/-! ### Inspection -/

/-- The model of the document behind a path, or else of the one that the settings name. -/
def inspect (folder : Folder) (input : Option String) : Except Failure Api := do
  let s ← settingsIn folder
  let path := input.getD s.input
  (Api.ofFile folder path s.toOptions).mapError (.loading path)

/-- The text of a summary. -/
def summaryText (format : TextFormat) (summary : Json.Value) : String :=
  match format with
  | .yaml => summary.toYaml
  | .json => summary.toIndented ++ "\n"

def inspectionReport (format : TextFormat) (grouping : Grouping) : Except Failure Api → Report
  | .ok api => .ofOutput (summaryText format (Summary.ofApi api grouping))
  | .error e => .ofFailure "" e

/-! ### Calls -/

/-- Write the settings file, unless there is one and it may not be overwritten. -/
def writeSettings (folder : Folder) (force : Bool) : Report :=
  match folder Settings.fileName, force with
  | .error .folder, true => .ofFailure "" (.unwritable ReadFault.folder.message)
  | .error .missing, _ | _, true =>
    ⟨0, "", "Created " ++ Settings.fileName ++ "\n", some Settings.template⟩
  | _, false => .ofFailure "" .settingsExist

def Command.report (folder : Folder) : Command → Report
  | validate input => (CommandLine.validate folder input).report
  | inspect input format grouping =>
    inspectionReport format grouping (CommandLine.inspect folder input)
  | init force => writeSettings folder force
  | completions shell => .ofOutput (Help.completions shell)

namespace Call

def report (folder : Folder) : Call → Report
  | run c => c.report folder
  | help topic => .ofOutput (Help.text topic)
  | version => .ofOutput (programName ++ " " ++ programVersion ++ "\n")
  | misuse => ⟨2, "", "error: invalid arguments\n\n" ++ Help.programUsage, none⟩

/-- The path of the document that a call looks at, as long as the settings can be read. -/
def documentPath? (folder : Folder) : Call → Option String
  | run (.validate input) | run (.inspect input _ _) =>
    match settingsIn folder with
    | .ok s => some (input.getD s.input)
    | .error _ => none
  | _ => none

end Call

end ApiOperations.CommandLine
