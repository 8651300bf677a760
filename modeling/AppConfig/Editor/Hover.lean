import AppConfig.Editor.Position
import AppConfig.Locate
import AppConfig.Schema
import AppConfig.Text.Units

/-!
# AppConfig.Editor.Hover

The documentation shown for the key of a line.
-/

namespace AppConfig.Editor

structure Hover where
  /-- Markdown. -/
  contents : String
  range : Range
  deriving DecidableEq, Repr

/-- ASCII letters and the underscore begin an identifier. -/
def isIdentStart (c : Char) : Bool := c.isAlpha || c == '_'

/-- ASCII letters, digits, underscore and dash continue one. -/
def isIdentChar (c : Char) : Bool := c.isAlphanum || c == '_' || c == '-'

/-- The identifier that a line declares as a key, and the white space before it. -/
def identifier? (line : List Char) : Option (List Char × List Char) :=
  (declaration? isIdentChar line).filter fun d => d.2.head?.any isIdentStart

/-- The documentation of a field. -/
def describe (f : Field) : String :=
  "**" ++ f.path ++ "** (`" ++ f.type.name ++ "`, " ++ f.requirement ++ ")\n\n" ++ f.description

/-- The hover for one line: the documentation of its key, over the key. -/
def hoverForLine (line : List Char) (number : Nat) : Option Hover :=
  match identifier? line with
  | none => none
  | some (indent, key) =>
    match Schema.lookup (String.ofList key) with
    | none => none
    | some f =>
      let start := Text.units indent
      some ⟨describe f, .onLine number start (start + Text.units key)⟩

end AppConfig.Editor
