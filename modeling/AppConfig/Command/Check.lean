import AppConfig.Report
import AppConfig.Validate

/-!
# AppConfig.Command.Check

Checking files: all of them are read and validated, then one report is printed. If any file cannot
be read, nothing is printed and the first such file is the error.
-/

namespace AppConfig.Command

/-- The text of a file. -/
def readText (disk : Disk) (path : Bytes) : Except ReadFault (List Char) :=
  match disk path with
  | .error e => .error e
  | .ok content =>
    match Text.utf8? content with
    | some text => .ok text
    | none => .error .notText

/-- The report on one file. -/
def checkFile (disk : Disk) (path : Bytes) : Except Error FileReport :=
  match readText disk path with
  | .error e => .error (.documentLoad (showPath path ++ ": " ++ e.message))
  | .ok text => .ok ⟨path, validateText text⟩

/-- The reports on several files, or the error of the first that cannot be read. -/
def checkFiles (disk : Disk) : List Bytes → Except Error (List FileReport)
  | [] => .ok []
  | path :: paths =>
    match checkFile disk path with
    | .error e => .error e
    | .ok r =>
      match checkFiles disk paths with
      | .error e => .error e
      | .ok rs => .ok (r :: rs)

structure CheckResult where
  hasErrors : Bool
  output : String
  deriving DecidableEq, Repr

/-- Checks files and renders the report. -/
def check (disk : Disk) (format : ReportFormat) (color : Bool) (files : List Bytes) :
    Except Error CheckResult :=
  match checkFiles disk files with
  | .error e => .error e
  | .ok reports =>
    match Report.render format color reports with
    | .error e => .error e
    | .ok output => .ok ⟨reports.any FileReport.hasErrors, output⟩

end AppConfig.Command
