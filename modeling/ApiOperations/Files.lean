import ApiOperations.Table

/-!
Files as far as this library looks at them: texts behind paths. A folder says for every path what its
file holds, or why it holds no text.
-/

namespace ApiOperations

/-- Why a file cannot be read as text. -/
inductive ReadFault where
  | missing
  /-- The path leads to a folder. -/
  | folder
  /-- The path goes on behind a file. -/
  | notFolder
  /-- The path holds the character NUL. -/
  | badName
  /-- The bytes are not those of a text. -/
  | notText
  /-- Another cause, in the words of the system. -/
  | other (words : String)
  deriving DecidableEq

def ReadFault.message : ReadFault → String
  | missing => "No such file or directory (os error 2)"
  | folder => "Is a directory (os error 21)"
  | notFolder => "Not a directory (os error 20)"
  | badName => "file name contained an unexpected NUL byte"
  | notText => "stream did not contain valid UTF-8"
  | other words => words

/-- The text of a file with the given bytes. -/
def textOfBytes (bytes : ByteArray) : Except ReadFault String :=
  match String.fromUTF8? bytes with
  | some text => .ok text
  | none => .error .notText

/-! ### Paths -/

namespace Path

/-- The parts of a path between its slashes; empty ones and single dots mean nothing. -/
def parts (path : String) : List (List Char) :=
  (path.toList.splitOn '/').filter fun p => p ≠ [] && p ≠ ['.']

/-- The part of a name after its last dot, if something stands before that dot. -/
def extensionOf (name : List Char) : Option (List Char) :=
  let reversed := name.reverse
  match reversed.dropWhile (· ≠ '.') with
  | _ :: _ :: _ => if name = ['.', '.'] then none else some (reversed.takeWhile (· ≠ '.')).reverse
  | _ => none

/-- The extension of the file that a path names. -/
def extension? (path : String) : Option (List Char) :=
  (parts path).getLast?.bind extensionOf

end Path

/-- What the file behind each path holds. -/
abbrev Folder := String → Except ReadFault String

namespace Folder

/-- The file with a name given by its parts. -/
def fileAt? (files : Table String) (parts : List (List Char)) : Option String :=
  (files.find? fun f => Path.parts f.1 = parts).map Prod.snd

/-- Some file lies below these parts. -/
def holds (files : Table String) (parts : List (List Char)) : Bool :=
  files.any fun f => parts.isPrefixOf (Path.parts f.1)

/-- Follow the parts of a path from the place `here`, given by its parts in reverse; the flag says that
the path wants a folder at its end. Nothing is known of what lies outside. -/
def follow (files : Table String) (wantsFolder : Bool) (here : List (List Char)) :
    List (List Char) → Except ReadFault String
  | [] => .error .folder
  | part :: rest =>
    if part = ['.', '.'] then
      match here with
      | [] => if rest = [] then .error .folder else .error .missing
      | _ :: above => follow files wantsFolder above rest
    else
      let there := part :: here
      match fileAt? files there.reverse with
      | some text => if rest = [] ∧ !wantsFolder then .ok text else .error .notFolder
      | none => if holds files there.reverse then follow files wantsFolder there rest else .error .missing

/-- What a folder holds that has the given files, in folders inside where their names say so. A path may
name a folder, but nothing behind a file. -/
def ofTable (files : Table String) : Folder := fun path =>
  if path.contains '\x00' then .error .badName
  else if path = "" then .error .missing
  else
    let parts := Path.parts path
    if path.startsWith "/" then
      if parts = [] then .error .folder else .error .missing
    else follow files (path.endsWith "/" || path.endsWith "/.") [] parts

end Folder

end ApiOperations
