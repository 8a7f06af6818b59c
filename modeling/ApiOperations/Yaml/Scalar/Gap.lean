import ApiOperations.Yaml.Cursor

/-!
Gaps between the words of a scalar. Blanks inside of a line stay; a line break becomes one space, and
when more breaks follow it, they stand for themselves.
-/

namespace ApiOperations.Yaml

/-- Blanks and line breaks that have been passed over. -/
structure Gap where
  /-- Blanks before the first break. -/
  blanks : List Char
  /-- A break has been passed over. -/
  broken : Bool
  /-- The first break. -/
  first : List Char
  /-- All further breaks. -/
  further : List Char

namespace Gap

def none : Gap := ⟨[], false, [], []⟩

/-- The gap after a break that an escape hides. -/
def hidden : Gap := ⟨[], true, [], []⟩

/-- What a gap leaves in the text. -/
def text (g : Gap) : List Char :=
  if g.broken then
    if g.first = ['\n'] then if g.further.isEmpty then [' '] else g.further
    else g.first ++ g.further
  else g.blanks

/-- Pass over blanks and breaks. A tab after a break is refused where the test says so. -/
def take (refusesTab : Cursor → Bool) : Nat → Cursor → Gap → Option (Gap × Cursor)
  | 0, c, g => some (g, c)
  | n + 1, c, g =>
    if isBlank c.peek then
      if g.broken then
        if c.peek == '\t' && refusesTab c then Option.none
        else take refusesTab n (c.skip 1) g
      else take refusesTab n (c.skip 1) { g with blanks := g.blanks ++ [c.peek] }
    else if isBreak c.peek then
      let (b, c') := c.takeBreak
      if g.broken then take refusesTab n c' { g with further := g.further ++ b }
      else take refusesTab n c' ⟨[], true, b, g.further⟩
    else some (g, c)

end Gap

end ApiOperations.Yaml
