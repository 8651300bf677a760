import AppConfig.Yaml.Lexeme.Tag

/-!
# AppConfig.Yaml.Lexeme.Directive

Directives: `%YAML major.minor` and `%TAG handle uri`, each on a line of its own.
-/

namespace AppConfig.Yaml

/-- The longest number a version may have. -/
def versionDigits : Nat := 9

/-- One number of a version, read onto `acc`; `n` more digits are allowed. -/
def scanVersionDigits (start : Mark) : Nat → Nat → Scan Nat
  | n, acc => do
    match ← look 1 with
    | c :: _ =>
      if c.isDigit then
        match n with
        | 0 => failIn .versionDirective start .longVersionNumber
        | n + 1 =>
          skip 1
          scanVersionDigits start n (10 * acc + (c.toNat - '0'.toNat))
      else pure acc
    | [] => pure acc

def scanVersionNumber (start : Mark) : Scan Nat := do
  match ← look 1 with
  | c :: _ =>
    if c.isDigit then scanVersionDigits start versionDigits 0
    else failIn .versionDirective start .missingVersionNumber
  | [] => failIn .versionDirective start .missingVersionNumber

def scanVersionDirective (start : Mark) : Scan TokenKind := do
  discard <| run isBlankChar
  let major ← scanVersionNumber start
  unless at? '.' (← look 1) do
    failIn .versionDirective start .missingVersionSeparator
  skip 1
  let minor ← scanVersionNumber start
  return .versionDirective major minor

def scanTagDirective (start : Mark) : Scan TokenKind := do
  discard <| run isBlankChar
  let handle ← scanHandle true start
  unless atBlank (← look 1) do
    failIn .tagDirective start .missingBlank
  discard <| run isBlankChar
  let uri ← scanUri true false [] .tagDirectiveUri start
  unless atGap (← look 1) do
    failIn .tagDirective start .missingBlankOrBreak
  return .tagDirective handle uri

/-- A directive, and the rest of its line. -/
def scanDirective : Scan Unit := do
  let start := (← get).mark
  skip 1
  let name ← run isNameChar
  if name.isEmpty then
    failIn .directive start .missingDirectiveName
  unless atGap (← look 1) do
    failIn .directive start .nonAlphabeticInDirective
  let kind ←
    if name == "YAML".toList then scanVersionDirective start
    else if name == "TAG".toList then scanTagDirective start
    else failIn .directive start .unknownDirective
  emit kind start
  skipToLineEnd
  unless atLineEnd (← look 1) do
    failIn .directive start .missingCommentOrBreak
  discard takeBreak

end AppConfig.Yaml
