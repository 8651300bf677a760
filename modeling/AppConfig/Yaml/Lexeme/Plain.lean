import AppConfig.Yaml.Lexeme.Folding

/-!
# AppConfig.Yaml.Lexeme.Plain

Plain scalars: words without quotes. They end at a comment, at `: `, at a line that is indented
less than its surroundings, and in flow collections at a comma or bracket.
-/

namespace AppConfig.Yaml

/-- Characters that end a plain scalar inside a flow collection. -/
def isFlowIndicator (c : Char) : Bool := c ∈ [',', '[', ']', '\x7b', '\x7d']

/-- The characters of a plain scalar up to the next gap. -/
def scanPlainRun (start : Mark) : Scan String := do
  let inFlow := (← get).flowDepth != 0
  let mut text := ""
  for _ in [0 : (← get).left] do
    match ← look 2 with
    | [] => break
    | c :: cs =>
      if isBlankChar c || isBreakChar c then break
      if inFlow && c == ':' && (cs.head?.any fun d => d == '?' || isFlowIndicator d) then
        failIn .plainScalar start .unexpectedColon
      if (c == ':' && atGap cs) || (inFlow && isFlowIndicator c) then break
      text := text.push c
      skip 1
  return text

/-- A plain scalar. After one that ended with a line break, a key may begin. -/
def scanPlainScalar : Scan Unit := do
  let start := (← get).mark
  let indent := (← get).indent + 1
  let mut stop := start
  let mut text := ""
  let mut gap : Gap := {}
  for _ in [0 : (← get).left + 1] do
    let ahead ← look 4
    if (← get).mark.column == 0 && atDocumentIndicator ahead then break
    if at? '#' ahead then break
    let piece ← scanPlainRun start
    if !piece.isEmpty then
      text := text ++ gap.fold ++ piece
      gap := {}
      stop := (← get).mark
    let ahead ← look 1
    if ahead.isEmpty || !atGap ahead then break
    gap ← gap.scan start (some indent)
    if (← get).flowDepth == 0 && ((← get).mark.column : Int) < indent then break
  let broken := gap.broken
  modify fun s => { s with
    tokens := s.tokens.push ⟨.scalar text .plain, start, stop⟩
    keyAllowed := s.keyAllowed || broken }

end AppConfig.Yaml
