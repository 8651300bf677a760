import AppConfig.Json.Print
import AppConfig.Settings.LogFilter

/-!
# AppConfig.Log

Log records, and what is written beside the program's output: log records that pass the filter,
and plain text.
-/

namespace AppConfig

structure LogRecord where
  level : LogLevel
  target : String
  message : String
  /-- Further fields. -/
  fields : List (String × Json)
  deriving Repr

namespace LogRecord

/-- The fields with the message in front. -/
def allFields (r : LogRecord) : List (String × Json) := ("message", .str r.message) :: r.fields

def toJson (r : LogRecord) : Json :=
  .obj [("level", .str r.level.name), ("fields", .obj r.allFields), ("target", .str r.target)]

/-- The record as a line of text. -/
def line (r : LogRecord) : String :=
  r.level.name ++ " " ++ r.target ++ ": " ++ r.message ++
    String.join (r.fields.map fun f => " " ++ f.1 ++ "=" ++ f.2.compact)

end LogRecord

inductive Notice where
  /-- Text with its line ends. -/
  | text (s : String)
  | log (r : LogRecord)
  deriving Repr

namespace Notice

def info (target message : String) : Notice := .log ⟨.info, target, message, []⟩

/-- Whether a notice is written: text always, a record if the filter lets it pass. -/
def passes (filter : LogFilter) : Notice → Bool
  | .text _ => true
  | .log r => filter.admits r.level r.target (r.allFields.map (·.1))

/-- A notice as it is written. -/
def render (json : Bool) : Notice → String
  | .text s => s
  | .log r => (if json then r.toJson.compact else r.line) ++ "\n"

end Notice

end AppConfig
