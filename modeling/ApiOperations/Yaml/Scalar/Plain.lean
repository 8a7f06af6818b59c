import ApiOperations.Yaml.Scalar.Gap

/-!
Scalars without quotes. Such a scalar ends before a colon with a space after it, before a comment,
inside of flow collections before their indicators, and where a line is not indented enough.
-/

namespace ApiOperations.Yaml.Plain

/-- The colon before a flow indicator that may not stand inside of flow collections. -/
def isRefusedColon (flow : Bool) (c : Cursor) : Bool :=
  flow && c.peek == ':' && (c.ahead 1 == '?' || isFlowIndicator (c.ahead 1))

/-- The next character ends the scalar. -/
def isFinal (flow : Bool) (c : Cursor) : Bool :=
  (c.peek == ':' && isSpace (c.ahead 1)) || (flow && isFlowIndicator c.peek)

/-- The characters of a run without spaces, in reverse before `acc`. The gap before the run becomes
part of the scalar if a character follows it. -/
def takeRun (flow : Bool) : Nat → Cursor → List Char → Gap → Option (List Char × Gap × Cursor)
  | 0, _, _, _ => none
  | n + 1, c, acc, gap =>
    if isSpace c.peek then some (acc, gap, c)
    else if isRefusedColon flow c then none
    else if isFinal flow c then some (acc, gap, c)
    else takeRun flow n (c.skip 1) (c.peek :: (gap.text.reverse ++ acc)) Gap.none

/-- The text of a scalar, in reverse before `acc`, and whether the scalar ends after a line break. -/
def takeText (flow : Bool) (indent : Nat) :
    Nat → Cursor → List Char → Gap → Option (List Char × Bool × Cursor)
  | 0, _, _, _ => none
  | n + 1, c, acc, gap =>
    if c.atDocumentMarker || c.peek == '#' then some (acc, gap.broken, c)
    else do
      let (acc, gap, c) ← takeRun flow (c.left + 1) c acc gap
      if !(isBlank c.peek || isBreak c.peek) then some (acc, gap.broken, c)
      else
        let (gap, c) ← Gap.take (fun c => c.column < indent) (c.left + 1) c gap
        if !flow && c.column < indent then some (acc, gap.broken, c)
        else takeText flow indent n c acc gap

/-- The scalar that starts here, with lines indented at least so far. -/
def scan (flow : Bool) (indent : Nat) (c : Cursor) : Option (String × Bool × Cursor) :=
  (takeText flow indent (c.left + 2) c [] Gap.none).map fun r =>
    (String.ofList r.1.reverse, r.2)

end ApiOperations.Yaml.Plain
