import AppConfig.Schema
import AppConfig.Text.White

/-!
# AppConfig.Editor.Completion

The keys offered on a line: those nested under `settings` on an indented line, those of the root
elsewhere.
-/

namespace AppConfig.Editor

structure CompletionItem where
  label : String
  detail : String
  /-- Markdown. -/
  documentation : String
  insertText : String
  deriving DecidableEq, Repr

def CompletionItem.ofField (f : Field) : CompletionItem :=
  ⟨f.key, f.detail, f.description, f.insertText⟩

/-- How far a line is indented. -/
def indentDepth (line : List Char) : Nat := (line.takeWhile Text.isWhite).length

/-- The least depth at which nested keys are offered. -/
def nestedIndent : Nat := 2

/-- The items offered on a line. -/
def completionItems (line : List Char) : List CompletionItem :=
  let fields := if nestedIndent ≤ indentDepth line then Schema.nested "settings"
    else Schema.topLevel
  fields.map .ofField

end AppConfig.Editor
