import ApiOperations.Description.Source
import ApiOperations.Model.Settings

/-!
Where settings come from: a text, or the settings file of a folder, which may be missing.
-/

namespace ApiOperations

/-- Why there are no settings. -/
inductive SettingsFault where
  | unreadable (fault : ReadFault)
  | malformed
  deriving DecidableEq

namespace Settings

/-- The name of the settings file. -/
def fileName : String := ".opmodel.yaml"

/-- The settings that a text gives; nothing if it is malformed. -/
def ofText? (format : TextFormat) (text : String) : Option Settings :=
  format.read shape read text

/-- The settings of the settings file in a folder, if there is one. -/
def ofFolder (folder : Folder) : Except SettingsFault (Option Settings) :=
  match folder fileName with
  | .error .missing => .ok none
  | .error fault => .error (.unreadable fault)
  | .ok text =>
    match ofText? .yaml text with
    | none => .error .malformed
    | some s => .ok (some s)

end Settings

namespace SettingsFault

/-- What is said of settings that are malformed. -/
def malformedWords : String := "the text is not well-formed or does not give settings"

def message : SettingsFault → String
  | unreadable fault => "failed to read config " ++ Settings.fileName ++ ": " ++ fault.message
  | malformed => "failed to parse config " ++ Settings.fileName ++ ": " ++ malformedWords

/-- The message and those of the causes behind it. -/
def causes (e : SettingsFault) : List String :=
  match e with
  | unreadable fault => [e.message, fault.message]
  | malformed => [e.message, malformedWords]

end SettingsFault

end ApiOperations
