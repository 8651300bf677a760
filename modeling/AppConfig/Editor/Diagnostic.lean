import AppConfig.Editor.Position
import AppConfig.Finding
import AppConfig.Text.Line
import AppConfig.Text.Units
import AppConfig.Validate

/-!
# AppConfig.Editor.Diagnostic

Findings as the editor shows them: each one covers the whole line that it is about.
-/

namespace AppConfig.Editor

structure Diagnostic where
  range : Range
  severity : Severity
  code : String
  message : String
  deriving DecidableEq, Repr

namespace Diagnostic

/-- The name under which diagnostics are published. -/
def source : String := "config-lsp"

/-- The number of a severity. -/
def severityNumber : Severity → Nat
  | .error => 1
  | .warning => 2

end Diagnostic

/-- The range of a whole line; a missing line has no width. -/
def lineRange (text : List Char) (line : Nat) : Range :=
  .onLine line 0 (((Text.line? text line).map Text.units).getD 0)

def diagnosticOf (text : List Char) (f : Finding) : Diagnostic :=
  ⟨lineRange text f.line, f.severity, f.kind.code, f.message⟩

def diagnosticsOf (findings : List Finding) (text : List Char) : List Diagnostic :=
  findings.map (diagnosticOf text)

/-- The diagnostics of a text. -/
def diagnose (text : List Char) : List Diagnostic := diagnosticsOf (validateText text) text

end AppConfig.Editor
