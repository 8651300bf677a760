import AppConfig.Yaml.Grammar
import AppConfig.Yaml.Lexer
import AppConfig.Yaml.Tree

/-!
# AppConfig.Yaml.Read

Reading a text as one document: characters, tokens, events, value. A text without any document
reads as null, and one with several is a failure.
-/

namespace AppConfig.Yaml

/-- The value of a text. -/
def read (text : List Char) : Except Failure Value :=
  let events := EventStream.ofTokens (TokenStream.ofSource (Source.ofText text))
  let (document, more) := Document.ofEvents events
  match document.value with
  | .ok v => if more then .error .severalDocuments else .ok v
  | .error f => .error f

end AppConfig.Yaml
