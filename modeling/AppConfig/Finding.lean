/-!
# AppConfig.Finding

What validation reports: a severity, a kind, a line and a message.
-/

namespace AppConfig

inductive Severity where
  | error
  | warning
  deriving DecidableEq, Repr

namespace Severity

def name : Severity → String
  | .error => "error"
  | .warning => "warning"

end Severity

inductive FindingKind where
  | syntaxError
  | rootNotObject
  | missingRequiredField
  | typeMismatch
  | outOfRange
  deriving DecidableEq, Repr

namespace FindingKind

/-- The stable identifier of the kind, used in reports and as the diagnostic code. -/
def code : FindingKind → String
  | .syntaxError => "syntax-error"
  | .rootNotObject => "root-not-object"
  | .missingRequiredField => "missing-required-field"
  | .typeMismatch => "type-mismatch"
  | .outOfRange => "out-of-range"

/-- The kind in words. -/
def describe : FindingKind → String
  | .syntaxError => "Syntax error"
  | .rootNotObject => "Root is not an object"
  | .missingRequiredField => "Required field missing"
  | .typeMismatch => "Field type mismatch"
  | .outOfRange => "Value out of range"

end FindingKind

structure Finding where
  severity : Severity
  kind : FindingKind
  /-- Counted from zero. -/
  line : Nat
  message : String
  deriving DecidableEq, Repr

namespace Finding

def error (kind : FindingKind) (line : Nat) (message : String) : Finding :=
  ⟨.error, kind, line, message⟩

def warning (kind : FindingKind) (line : Nat) (message : String) : Finding :=
  ⟨.warning, kind, line, message⟩

def isError (f : Finding) : Bool := f.severity == .error

end Finding

end AppConfig
