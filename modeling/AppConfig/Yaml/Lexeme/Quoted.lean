import AppConfig.Yaml.Lexeme.Folding
import AppConfig.Yaml.Lexeme.Tag

/-!
# AppConfig.Yaml.Lexeme.Quoted

Quoted scalars. Inside single quotes a quote is written twice; inside double quotes a backslash
begins an escape, and one before a line break joins the lines.
-/

namespace AppConfig.Yaml

/-- The escapes of one letter. -/
def simpleEscape? : Char → Option Char
  | '0' => some '\x00'
  | 'a' => some '\x07'
  | 'b' => some '\x08'
  | 't' => some '\t'
  | '\t' => some '\t'
  | 'n' => some '\n'
  | 'v' => some '\x0b'
  | 'f' => some '\x0c'
  | 'r' => some '\r'
  | 'e' => some '\x1b'
  | ' ' => some ' '
  | '"' => some '"'
  | '/' => some '/'
  | '\\' => some '\\'
  | 'N' => some '\u0085'
  | '_' => some '\u00a0'
  | 'L' => some '\u2028'
  | 'P' => some '\u2029'
  | _ => none

/-- The escapes by code point, and how many hexadecimal digits they take. -/
def codeEscape? : Char → Option Nat
  | 'x' => some 2
  | 'u' => some 4
  | 'U' => some 8
  | _ => none

/-- The number written by `n` hexadecimal digits. -/
def hexNumber? : Nat → Nat → List Char → Option Nat
  | 0, acc, _ => some acc
  | _ + 1, _, [] => none
  | n + 1, acc, c :: cs =>
    match hexValue? c with
    | some d => hexNumber? n (16 * acc + d) cs
    | none => none

/-- An escape after its backslash, which is still ahead. -/
def scanEscape (start : Mark) : Scan Char := do
  let escape := ((← look 2).drop 1).head?
  match escape.bind simpleEscape? with
  | some c => skip 2; pure c
  | none =>
    match escape.bind codeEscape? with
    | none => failIn .quotedEscape start .unknownEscape
    | some n =>
      skip 2
      match hexNumber? n 0 (← look n) with
      | none => failIn .quotedEscape start .missingHexNumber
      | some code =>
        if (0xD800 ≤ code && code ≤ 0xDFFF) || 0x10FFFF < code then
          failIn .quotedEscape start .badCharacterCode
        skip n
        pure (Char.ofNat code)

/-- The characters up to the next gap or the closing quote. The flag tells that an escaped break
has ended them. -/
def scanQuotedRun (single : Bool) (start : Mark) : Scan (String × Bool) := do
  let mut text := ""
  for _ in [0 : (← get).left] do
    match ← look 2 with
    | [] => break
    | c :: cs =>
      if isBlankChar c || isBreakChar c then break
      if single then
        if c == '\'' then
          if at? '\'' cs then
            text := text.push '\''
            skip 2
          else break
        else
          text := text.push c
          skip 1
      else if c == '"' then break
      else if c == '\\' then
        if atBreak cs then
          skip 1
          discard takeBreak
          return (text, true)
        text := text.push (← scanEscape start)
      else
        text := text.push c
        skip 1
  discard <| look 1
  return (text, false)

/-- A quoted scalar. -/
def scanQuotedScalar (single : Bool) : Scan Unit := do
  let start := (← get).mark
  let quote := if single then '\'' else '"'
  skip 1
  let mut text := ""
  for _ in [0 : (← get).left + 1] do
    let ahead ← look 4
    if (← get).mark.column == 0 && atDocumentIndicator ahead then
      failIn .quotedScalar start .documentIndicator
    if ahead.isEmpty then
      failIn .quotedScalar start .endOfStream
    let (piece, joined) ← scanQuotedRun single start
    text := text ++ piece
    if at? quote (← look 1) then break
    let gap ← Gap.scan { broken := joined } start none
    text := text ++ gap.fold
  skip 1
  emit (.scalar text (if single then .singleQuoted else .doubleQuoted)) start

end AppConfig.Yaml
