import AppConfig.Yaml.Cursor

/-!
# AppConfig.Yaml.Lexeme.Block

Block scalars, literal `|` and folded `>`. The header may give the indentation and what becomes of
the line breaks at the end; the lines that follow belong to the scalar while they are indented as
deep as the first one.
-/

namespace AppConfig.Yaml

/-- What happens to the breaks at the end of a block scalar. -/
inductive Chomping where
  | strip
  | clip
  | keep
  deriving DecidableEq

/-- The `+` or `-` of a header. -/
def scanChomping : Scan (Option Chomping) := do
  match ← look 1 with
  | '+' :: _ => skip 1; pure (some .keep)
  | '-' :: _ => skip 1; pure (some .strip)
  | _ => pure none

/-- The indentation digit of a header. -/
def scanIncrement (start : Mark) : Scan (Option Nat) := do
  match ← look 1 with
  | c :: _ =>
    if !c.isDigit then pure none
    else if c == '0' then failIn .blockScalar start .zeroIndentation
    else skip 1; pure (some (c.toNat - '0'.toNat))
  | [] => pure none

/-- Reads indentation and empty lines up to the next line with content. With `indent` zero, all
leading spaces are taken. Gives the breaks and the deepest column seen. -/
def scanIndentation (start : Mark) (indent : Int) : Scan (List Char × Nat) := do
  let mut breaks : List Char := []
  let mut deepest := 0
  for _ in [0 : (← get).left + 1] do
    let s ← get
    let room := if indent == 0 then s.left else (indent - s.mark.column).toNat
    skip ((s.ahead.take room).takeWhile (· == ' ')).length
    let ahead ← look 1
    let column := (← get).mark.column
    deepest := max deepest column
    if (indent == 0 || (column : Int) < indent) && at? '\t' ahead then
      failIn .blockScalar start .tabInIndentation
    if !atBreak ahead then break
    breaks := breaks ++ (← takeBreak)
  return (breaks, deepest)

/-- A block scalar. -/
def scanBlockScalar (literal : Bool) : Scan Unit := do
  let start := (← get).mark
  skip 1
  let first ← scanChomping
  let increment ← scanIncrement start
  let second ← if first.isNone && increment.isSome then scanChomping else pure none
  let chomping := (first.or second).getD .clip
  skipToLineEnd
  unless atLineEnd (← look 1) do
    failIn .blockScalar start .missingCommentOrBreak
  discard takeBreak
  let outer := (← get).indent
  let given : Int := match increment with
    | some n => if 0 ≤ outer then outer + n else n
    | none => 0
  let (breaks, deepest) ← scanIndentation start given
  let indent : Int := if given != 0 then given else max (max deepest (outer + 1)) 1
  let mut text := ""
  let mut leading : List Char := []
  let mut trailing := breaks
  -- the line before began with a blank, so its break is kept
  let mut indented := false
  for _ in [0 : (← get).left + 1] do
    let ahead ← look 1
    if (← get).mark.column != indent || ahead.isEmpty then break
    let blank := atBlank ahead
    if !literal && at? '\n' leading && !indented && !blank then
      if trailing.isEmpty then text := text.push ' '
    else
      text := text ++ String.ofList leading
    text := text ++ String.ofList trailing
    indented := blank
    text := text ++ String.ofList (← run (!isBreakChar ·))
    leading ← takeBreak
    trailing := (← scanIndentation start indent).1
  if chomping != .strip then text := text ++ String.ofList leading
  if chomping == .keep then text := text ++ String.ofList trailing
  emit (.scalar text (if literal then .literal else .folded)) start

end AppConfig.Yaml
