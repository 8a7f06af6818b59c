import ApiOperations.Model.Settings.Source
import ApiOperations.Model.Source

/-!
Failures of commands and how they are reported: the message, and below it the messages of the causes,
numbered if there are several.
-/

namespace ApiOperations.CommandLine

inductive Failure where
  | settings (fault : SettingsFault)
  | document (fault : DocumentFault)
  | model (fault : ModelFault)
  /-- There is no model of the document behind the path. -/
  | loading (path : String) (fault : ModelFault)
  /-- There is a settings file already. -/
  | settingsExist
  /-- The settings file cannot be written, in the words of the system. -/
  | unwritable (words : String)
  deriving DecidableEq

namespace Failure

/-- The message. -/
def message : Failure → String
  | settings fault => fault.message
  | document fault => fault.message
  | model fault => fault.message
  | loading path _ => "failed to load " ++ path
  | settingsExist => Settings.fileName ++ " already exists. Use --force to overwrite."
  | unwritable _ => "failed to write " ++ Settings.fileName

/-- The messages of the causes behind it, from the nearest to the farthest. -/
def causes : Failure → List String
  | settings fault => fault.causes.tail
  | document fault => fault.causes.tail
  | model fault => fault.causes.tail
  | loading _ fault => fault.causes
  | settingsExist => []
  | unwritable words => [words]

/-- A text with blanks before every line but the first. -/
def hang (width : Nat) (text : String) : String :=
  String.ofList <| text.toList.flatMap fun c => if c = '\n' then '\n' :: List.replicate width ' ' else [c]

/-- The lines of the causes. -/
def causeLines : List String → List String
  | [] => []
  | [cause] => ["    " ++ hang 4 cause]
  | causes =>
    causes.zipIdx.map fun (cause, i) =>
      let number := String.ofList (Nat.toDigits 10 i)
      String.ofList (List.replicate (5 - number.length) ' ') ++ number ++ ": " ++ hang 7 cause

/-- The report of a failure. -/
def report (e : Failure) : String :=
  match causeLines e.causes with
  | [] => "Error: " ++ e.message ++ "\n"
  | lines =>
    "Error: " ++ e.message ++ "\n\nCaused by:\n" ++ String.join (lines.map (· ++ "\n"))

end Failure

end ApiOperations.CommandLine
