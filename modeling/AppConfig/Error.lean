/-!
# AppConfig.Error

Why a command fails.
-/

namespace AppConfig

inductive Error where
  | documentLoad (detail : String)
  | invalidInput (detail : String)
  | server (detail : String)
  | telemetry (detail : String)
  | io (detail : String)
  | yaml (detail : String)
  | json (detail : String)
  deriving DecidableEq, Repr

namespace Error

def message : Error → String
  | .documentLoad d => "Failed to read document: " ++ d
  | .invalidInput d => "Invalid input: " ++ d
  | .server d => "Server error: " ++ d
  | .telemetry d => "Telemetry error: " ++ d
  | .io d => "IO error: " ++ d
  | .yaml d => "YAML error: " ++ d
  | .json d => "JSON error: " ++ d

/-- The error underneath, where the failure only passes one on. -/
def cause? : Error → Option String
  | .io d => some d
  | .yaml d => some d
  | .json d => some d
  | _ => none

end Error

end AppConfig
