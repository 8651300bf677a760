import AppConfig.Editor.Encode
import AppConfig.Error
import AppConfig.Files
import AppConfig.Json.Print
import AppConfig.Yaml.Write

/-!
# AppConfig.Report

The findings of checked files, as lines of text, as JSON and as YAML.

* `FileReport` — the findings of one file.
* `Report.text` — lines with a summary, coloured on request.
* `Report.render` — a report in a given format.
-/

namespace AppConfig

structure FileReport where
  path : Bytes
  findings : List Finding
  deriving DecidableEq, Repr

namespace FileReport

def hasErrors (r : FileReport) : Bool := r.findings.any Finding.isError

end FileReport

inductive ReportFormat where
  | text
  | json
  | yaml
  deriving DecidableEq, Repr

/-- How a piece of text is coloured. -/
inductive Style where
  | green
  | yellow
  | redBold
  | greenBold
  | brightBlue
  deriving DecidableEq, Repr

namespace Style

/-- The parameters of the terminal's colour sequence. -/
def code : Style → String
  | .green => "32"
  | .yellow => "33"
  | .redBold => "1;31"
  | .greenBold => "1;32"
  | .brightBlue => "94"

/-- A text in a style, if colours are wanted. -/
def apply (color : Bool) (s : Style) (text : String) : String :=
  if color then "\x1b[" ++ s.code ++ "m" ++ text ++ "\x1b[0m" else text

end Style

namespace Report

def severityStyle : Severity → Style
  | .error => .redBold
  | .warning => .yellow

/-- The line for one finding. Lines are counted from one. -/
def findingLine (color : Bool) (path : String) (f : Finding) : String :=
  path ++ ":" ++ toString (f.line + 1) ++ ": " ++
    (severityStyle f.severity).apply color f.severity.name ++ ": " ++ f.message ++ "\n"

/-- The lines for one file. -/
def fileLines (color : Bool) (r : FileReport) : List String :=
  match r.findings with
  | [] => [Style.green.apply color "✓" ++ " " ++ showPath r.path ++ "\n"]
  | fs => fs.map (findingLine color (showPath r.path))

/-- How many findings of each severity were counted. The counters are words of 32 bits. -/
structure Tally where
  errors : Int32
  warnings : Int32
  deriving DecidableEq, Repr

def Tally.add (t : Tally) (f : Finding) : Tally :=
  match f.severity with
  | .error => { t with errors := t.errors + 1 }
  | .warning => { t with warnings := t.warnings + 1 }

/-- Counts the findings of all reports, one after the other. -/
def tally (rs : List FileReport) : Tally :=
  rs.foldl (fun t r => r.findings.foldl Tally.add t) ⟨0, 0⟩

def summary (rs : List FileReport) : String :=
  toString rs.length ++ " file(s) checked, " ++ toString (tally rs).errors ++ " error(s), " ++
    toString (tally rs).warnings ++ " warning(s)"

/-- The report as lines of text. -/
def text (color : Bool) (rs : List FileReport) : String :=
  let style := if 0 < (tally rs).errors then Style.redBold else Style.greenBold
  String.join (rs.flatMap (fileLines color)) ++ "\n" ++ style.apply color (summary rs) ++ "\n"

/-- The data of one report; `none` if its path is no text. -/
def fileJson? (r : FileReport) : Option Json :=
  (Text.utf8? r.path).map fun path =>
    .obj [("path", .str (String.ofList path)), ("findings", .arr (r.findings.map Finding.toJson))]

/-- The data of all reports; `none` if a path is no text. -/
def json? (rs : List FileReport) : Option Json := (rs.mapM fileJson?).map .arr

/-- Why a report cannot be written as data. -/
def pathFault : String := "path contains invalid UTF-8 characters"

/-- The report in a format. -/
def render (format : ReportFormat) (color : Bool) (rs : List FileReport) : Except Error String :=
  match format with
  | .text => .ok (text color rs)
  | .json =>
    match json? rs with
    | some j => .ok (j.pretty ++ "\n")
    | none => .error (.json pathFault)
  | .yaml =>
    match json? rs with
    | some j => .ok (Yaml.write j)
    | none => .error (.yaml pathFault)

end Report

end AppConfig
