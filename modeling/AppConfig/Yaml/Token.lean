import AppConfig.Yaml.Fault

/-!
# AppConfig.Yaml.Token

Tokens: the indicators, names, tags and scalars of a document, with the places where they begin
and end. The block structure that indentation implies is made explicit by start and end tokens.
-/

namespace AppConfig.Yaml

inductive ScalarStyle where
  | plain
  | singleQuoted
  | doubleQuoted
  | literal
  | folded
  deriving DecidableEq, Repr

inductive TokenKind where
  | streamStart
  | streamEnd
  | versionDirective (major minor : Nat)
  | tagDirective (handle : String) (uri : List UInt8)
  | documentStart
  | documentEnd
  | blockSequenceStart
  | blockMappingStart
  | blockEnd
  | flowSequenceStart
  | flowSequenceEnd
  | flowMappingStart
  | flowMappingEnd
  | blockEntry
  | flowEntry
  | key
  | value
  | alias (name : String)
  | anchor (name : String)
  | tag (handle : String) (suffix : List UInt8)
  | scalar (text : String) (style : ScalarStyle)
  deriving DecidableEq, Repr

structure Token where
  kind : TokenKind
  start : Mark
  stop : Mark
  deriving DecidableEq, Repr

/-- The tokens that can be delivered, and the fault behind the last of them. -/
structure TokenStream where
  tokens : Array Token
  fault : Option Fault

end AppConfig.Yaml
