import AppConfig.Yaml.Cursor

/-!
# AppConfig.Yaml.Lexeme.Folding

Blanks and breaks between the words of a scalar that spans lines: blanks before a break are
dropped, a single break becomes a space, and of several breaks all but the first stay.
-/

namespace AppConfig.Yaml

/-- The gap that has been read since the last word. -/
structure Gap where
  /-- The blanks, as long as no break has been read. -/
  blanks : String := ""
  /-- The first break, if one has been read; an escaped break leaves none. -/
  first : List Char := []
  /-- The breaks after the first. -/
  more : List Char := []
  /-- A break has been read. -/
  broken : Bool := false

namespace Gap

/-- What a gap contributes to the scalar. -/
def fold (g : Gap) : String :=
  if !g.broken then g.blanks
  else if at? '\n' g.first then
    if g.more.isEmpty then " " else String.ofList g.more
  else String.ofList (g.first ++ g.more)

/-- Reads the blanks and breaks ahead onto a gap. With `indent`, a tab before that column on a
new line is a fault. -/
def scan (gap : Gap) (start : Mark) (indent : Option Int) : Scan Gap := do
  let mut g := gap
  for _ in [0 : (← get).left] do
    match ← look 1 with
    | [] => break
    | c :: _ =>
      if isBlankChar c then
        if g.broken && c == '\t' then
          if let some n := indent then
            if ((← get).mark.column : Int) < n then
              failIn .plainScalar start .tabViolatesIndentation
        skip 1
        if !g.broken then g := { g with blanks := g.blanks.push c }
      else if isBreakChar c then
        let b ← takeBreak
        g := if g.broken then { g with more := g.more ++ b }
          else { g with blanks := "", first := b, broken := true }
      else break
  discard <| look 1
  return g

end Gap

end AppConfig.Yaml
