import ApiOperations.Yaml.Token
import ApiOperations.Yaml.Token.Tag

/-!
Directives: a version of the format, or a handle for tags.
-/

namespace ApiOperations.Yaml.Directive

/-- A number of at most nine digits. -/
def takeNumber (c : Cursor) : Option (Nat × Cursor) :=
  let (ds, c) := c.takeWhile Char.isDigit
  if ds.isEmpty || 9 < ds.length then none
  else some (ds.foldl (fun n d => 10 * n + (d.toNat - '0'.toNat)) 0, c)

def scanVersion (c : Cursor) : Option (Token × Cursor) := do
  let (major, c) ← takeNumber (c.skipWhile isBlank)
  if c.peek == '.' then
    let (minor, c) ← takeNumber (c.skip 1)
    return (.versionDirective major minor, c)
  else none

def scanTag (c : Cursor) : Option (Token × Cursor) := do
  let (handle, c) ← Tag.scanHandle (c.skipWhile isBlank)
  if !(Tag.isHandle handle || handle == ['!']) || !isBlank c.peek then none
  else
    let (uri, c) ← Tag.scanUri true [] (c.skipWhile isBlank)
    if isSpace c.peek then return (.tagDirective (String.ofList handle) uri, c) else none

/-- The directive whose indicator is next, with the rest of its line. -/
def scan (c : Cursor) : Option (Token × Cursor) := do
  let (name, c) := (c.skip 1).takeWhile isWord
  if name.isEmpty || !isSpace c.peek then none
  else
    let (t, c) ←
      if name = "YAML".toList then scanVersion c
      else if name = "TAG".toList then scanTag c
      else none
    let c := c.skipWhile isBlank
    let c := if c.peek == '#' then c.skipWhile fun x => !isBreakOrEnd x else c
    if isBreakOrEnd c.peek then return (t, c.skipBreak) else none

end ApiOperations.Yaml.Directive
