import ApiOperations.CommandLine.Run

/-!
The program. It reads the files that a call looks at, and prints and writes what its report says.
-/

namespace ApiOperations.CommandLine

/-- Why reading a file failed. -/
def readFault (e : IO.Error) : ReadFault :=
  match e with
  | .noFileOrDirectory .. => .missing
  | e => .other (toString e)

/-- What the file behind a path holds. -/
def readFile (path : String) : IO (Except ReadFault String) := do
  try
    return textOfBytes (← IO.FS.readBinFile path)
  catch e => return .error (readFault e)

/-- The folder as far as a call looks at it. -/
def folderFor (call : Call) : IO Folder := do
  let settings ← readFile Settings.fileName
  let alone : Folder := fun path => if path = Settings.fileName then settings else .error .missing
  match call.documentPath? alone with
  | none => return alone
  | some path =>
    let text ← readFile path
    return fun p => if p = Settings.fileName then settings else if p = path then text else .error .missing

end ApiOperations.CommandLine

open ApiOperations ApiOperations.CommandLine

def main (args : List String) : IO UInt32 := do
  let call := Call.ofArguments args
  let report := call.report (← folderFor call)
  let written ←
    match report.settings with
    | none => pure (Except.ok ())
    | some text => (IO.FS.writeFile Settings.fileName text).toBaseIO
  match written with
  | .ok () =>
    (← IO.getStdout).putStr report.output
    (← IO.getStderr).putStr report.messages
    return UInt32.ofNat report.exitCode
  | .error e =>
    let report := Report.ofFailure "" (.unwritable (toString e))
    (← IO.getStderr).putStr report.messages
    return UInt32.ofNat report.exitCode
