import AppConfig.Yaml.Cursor

/-!
# AppConfig.Yaml.Lexeme.Name

Anchors `&name` and aliases `*name`.
-/

namespace AppConfig.Yaml

/-- What may follow a name: a gap, or an indicator that cannot belong to it. -/
def endsName : List Char → Bool
  | [] => true
  | c :: _ => isBlankChar c || isBreakChar c || c ∈ ['?', ':', ',', ']', '\x7d', '%', '@', '\x60']

/-- The name after `&` or `*`. -/
def scanName (context : Context) (kind : String → TokenKind) : Scan Unit := do
  let start := (← get).mark
  skip 1
  let name ← run isNameChar
  if name.isEmpty || !endsName (← look 1) then
    failIn context start .missingName
  emit (kind (String.ofList name)) start

end AppConfig.Yaml
