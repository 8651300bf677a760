import AppConfig.Command.Start
import AppConfig.Proofs.Command.Lossless
import AppConfig.Proofs.Command.TextReport
import AppConfig.Proofs.Command.YamlReport

/-!
# AppConfig.Proofs.Command.Verdict

Checking files is all or nothing: either every file is read and one report covers them all, or
nothing is printed and one error says why. The verdict, and with it the exit code, does not depend
on the format of the report.

* `FilesChecked` — what becomes of the files: reports on all of them, or the error of the first that
  holds no text.
* `Printed` — what a report tells: in text every file in its own lines, as data all that it was made
  from.
-/

namespace AppConfig

open Text (IsText)

namespace Command

/-- The file at a path holds a text. -/
def Holds (disk : Disk) (path : Bytes) (text : List Char) : Prop :=
  disk path = .ok (Text.utf8 text)

def Readable (disk : Disk) (path : Bytes) : Prop := ∃ text, Holds disk path text

/-- Why the file at a path holds no text. -/
inductive Unreadable (disk : Disk) (path : Bytes) : ReadFault → Prop where
  | fault {why : ReadFault} : disk path = .error why → Unreadable disk path why
  | notText {content : Bytes} : disk path = .ok content → ¬ IsText content →
      Unreadable disk path .notText

theorem Unreadable.not_readable {disk : Disk} {path : Bytes} {why : ReadFault}
    (h : Unreadable disk path why) : ¬ Readable disk path := by
  rintro ⟨text, htext⟩
  cases h with
  | fault hdisk =>
    rw [Holds, hdisk] at htext
    cases htext
  | notText hdisk hno =>
    rw [Holds, hdisk] at htext
    exact hno ⟨text, Except.ok.inj htext⟩

theorem readText_cases (disk : Disk) (path : Bytes) :
    (∃ text, readText disk path = .ok text ∧ Holds disk path text) ∨
      ∃ why, readText disk path = .error why ∧ Unreadable disk path why := by
  unfold readText
  cases hdisk : disk path with
  | error why => exact .inr ⟨why, rfl, .fault hdisk⟩
  | ok content =>
    cases htext : Text.utf8? content with
    | none =>
      exact .inr ⟨.notText, by simp [htext], .notText hdisk (Text.utf8?_eq_none_iff.mp htext)⟩
    | some text =>
      refine .inl ⟨text, by simp [htext], ?_⟩
      rw [Holds, hdisk, Text.utf8?_eq_some_iff.mp htext]

/-! ## The files -/

/-- The error for a file that holds no text. -/
def loadError (path : Bytes) (why : ReadFault) : Error :=
  .documentLoad (showPath path ++ ": " ++ why.message)

/-- The report on a file: the findings of its text. -/
structure ReportOn (disk : Disk) (path : Bytes) (r : FileReport) : Prop where
  path_eq : r.path = path
  findings : ∃ text, Holds disk path text ∧ r.findings = validateText text

inductive FilesChecked (disk : Disk) : List Bytes → Except Error (List FileReport) → Prop where
  | reports {files : List Bytes} {rs : List FileReport} :
      List.Forall₂ (ReportOn disk) files rs → FilesChecked disk files (.ok rs)
  | unreadable {before behind : List Bytes} {path : Bytes} {why : ReadFault} :
      (∀ p ∈ before, Readable disk p) → Unreadable disk path why →
      FilesChecked disk (before ++ path :: behind) (.error (loadError path why))

theorem filesChecked (disk : Disk) (files : List Bytes) :
    FilesChecked disk files (checkFiles disk files) := by
  induction files with
  | nil => exact .reports .nil
  | cons path paths ih =>
    rw [checkFiles, checkFile]
    rcases readText_cases disk path with ⟨text, hread, htext⟩ | ⟨why, hread, hwhy⟩
    · rw [hread]
      generalize checkFiles disk paths = checked at ih ⊢
      cases ih with
      | reports hrs => exact .reports (.cons ⟨rfl, text, htext, rfl⟩ hrs)
      | @unreadable before behind path' why hbefore hwhy =>
        have hbefore' : ∀ p ∈ path :: before, Readable disk p := by
          intro p hp
          rcases List.mem_cons.mp hp with rfl | hp
          · exact ⟨text, htext⟩
          · exact hbefore p hp
        exact .unreadable hbefore' hwhy
    · have hnone : ∀ p ∈ ([] : List Bytes), Readable disk p := by simp
      rw [hread]
      exact .unreadable hnone hwhy

theorem readable_of_reports {disk : Disk} {files : List Bytes} {rs : List FileReport}
    (h : List.Forall₂ (ReportOn disk) files rs) : ∀ p ∈ files, Readable disk p := by
  induction h with
  | nil => simp
  | cons hr _ ih =>
    intro p hp
    rcases List.mem_cons.mp hp with rfl | hp
    · obtain ⟨text, htext, -⟩ := hr.findings
      exact ⟨text, htext⟩
    · exact ih p hp

theorem paths_of_reports {disk : Disk} {files : List Bytes} {rs : List FileReport}
    (h : List.Forall₂ (ReportOn disk) files rs) : rs.map (·.path) = files := by
  induction h with
  | nil => rfl
  | cons hr _ ih => rw [List.map_cons, hr.path_eq, ih]

end Command

/-! ## The report -/

namespace Report

/-- A printed report: every file once, in order, with all its findings. As text it has the entries of
each file and a last line that counts them; as data it is decoded to the reports. Line numbers are words
of 64 bits, and no larger numbers are read back from JSON. -/
inductive Printed (color : Bool) (rs : List FileReport) : ReportFormat → String → Prop where
  | text {blocks : List (List String)} : List.Forall₂ (Accounts color) rs blocks →
      Printed color rs .text (String.join blocks.flatten ++ "\n" ++ closing color rs ++ "\n")
  | json {output : String} : (Numbered rs → decode? output = some rs) →
      Printed color rs .json output
  | yaml {output : String} : decodeYaml? output = some rs → Printed color rs .yaml output

/-- Rendering prints a report, or, as data, complains of a path that is no text. -/
inductive Rendered (color : Bool) (rs : List FileReport) :
    ReportFormat → Except Error String → Prop where
  | printed {format : ReportFormat} {output : String} :
      (format = .text ∨ ∀ r ∈ rs, IsText r.path) → Printed color rs format output →
      Rendered color rs format (.ok output)
  | json : (∃ r ∈ rs, ¬ IsText r.path) → Rendered color rs .json (.error (.json pathFault))
  | yaml : (∃ r ∈ rs, ¬ IsText r.path) → Rendered color rs .yaml (.error (.yaml pathFault))

theorem rendered (format : ReportFormat) (color : Bool) (rs : List FileReport) :
    Rendered color rs format (render format color rs) := by
  cases format with
  | text =>
    obtain ⟨blocks, haccounts, htext⟩ := exists_accounts color rs
    rw [render, htext]
    exact .printed (.inl rfl) (.text haccounts)
  | json =>
    rcases json?_cases rs with ⟨names, hnames, hdata⟩ | ⟨hno, hdata⟩
    · simp only [render, hdata]
      exact .printed (.inr (isText_of_names hnames)) (.json (decode?_pretty hnames))
    · simp only [render, hdata]
      exact .json hno
  | yaml =>
    rcases json?_cases rs with ⟨names, hnames, hdata⟩ | ⟨hno, hdata⟩
    · simp only [render, hdata]
      exact .printed (.inr (isText_of_names hnames)) (.yaml (decodeYaml?_write hnames))
    · simp only [render, hdata]
      exact .yaml hno

end Report

/-! ## The verdict -/

namespace Command

/-- What checking files comes to. The cases exclude one another. -/
inductive Checked (disk : Disk) (color : Bool) (files : List Bytes) :
    ReportFormat → Except Error CheckResult → Prop where
  | unreadable {format : ReportFormat} {before behind : List Bytes} {path : Bytes}
      {why : ReadFault} :
      files = before ++ path :: behind → (∀ p ∈ before, Readable disk p) →
      Unreadable disk path why → Checked disk color files format (.error (loadError path why))
  | json : (∀ p ∈ files, Readable disk p) → (∃ p ∈ files, ¬ IsText p) →
      Checked disk color files .json (.error (.json Report.pathFault))
  | yaml : (∀ p ∈ files, Readable disk p) → (∃ p ∈ files, ¬ IsText p) →
      Checked disk color files .yaml (.error (.yaml Report.pathFault))
  | reported {format : ReportFormat} {rs : List FileReport} {output : String} :
      List.Forall₂ (ReportOn disk) files rs → (format = .text ∨ ∀ p ∈ files, IsText p) →
      Report.Printed color rs format output →
      Checked disk color files format (.ok ⟨rs.any FileReport.hasErrors, output⟩)

theorem checked (disk : Disk) (format : ReportFormat) (color : Bool) (files : List Bytes) :
    Checked disk color files format (check disk format color files) := by
  have hfiles := filesChecked disk files
  unfold check
  generalize checkFiles disk files = result at hfiles ⊢
  cases hfiles with
  | unreadable hbefore hwhy => exact .unreadable rfl hbefore hwhy
  | @reports _ rs hrs =>
    have hread := readable_of_reports hrs
    have hpaths := paths_of_reports hrs
    have hmem : ∀ r ∈ rs, r.path ∈ files := fun r hr => hpaths ▸ List.mem_map_of_mem hr
    have hrendered := Report.rendered format color rs
    simp only
    generalize Report.render format color rs = rendering at hrendered ⊢
    cases hrendered with
    | printed htext hprinted =>
      rw [← List.forall_mem_map, hpaths] at htext
      exact .reported hrs htext hprinted
    | json hno =>
      obtain ⟨r, hr, hno⟩ := hno
      exact .json hread ⟨r.path, hmem r hr, hno⟩
    | yaml hno =>
      obtain ⟨r, hr, hno⟩ := hno
      exact .yaml hread ⟨r.path, hmem r hr, hno⟩

namespace Checked

variable {disk : Disk} {color : Bool} {files : List Bytes} {format : ReportFormat}
  {result : Except Error CheckResult}

theorem first_unreadable (h : Checked disk color files format result)
    (hno : ∃ p ∈ files, ¬ Readable disk p) :
    ∃ before path behind why, files = before ++ path :: behind ∧
      (∀ p ∈ before, Readable disk p) ∧ Unreadable disk path why ∧
      result = .error (loadError path why) := by
  obtain ⟨p, hp, hno⟩ := hno
  cases h with
  | @unreadable _ before behind path why hfiles hbefore hwhy =>
    exact ⟨before, path, behind, why, hfiles, hbefore, hwhy, rfl⟩
  | json hread => exact absurd (hread p hp) hno
  | yaml hread => exact absurd (hread p hp) hno
  | reported hrs => exact absurd (readable_of_reports hrs p hp) hno

theorem no_data (h : Checked disk color files format result)
    (hread : ∀ p ∈ files, Readable disk p) (hno : ∃ p ∈ files, ¬ IsText p) :
    (format = .json → result = .error (.json Report.pathFault)) ∧
      (format = .yaml → result = .error (.yaml Report.pathFault)) := by
  obtain ⟨p, hp, hno⟩ := hno
  cases h with
  | unreadable hfiles _ hwhy => exact absurd (hread _ (by simp [hfiles])) hwhy.not_readable
  | json => exact ⟨fun _ => rfl, nofun⟩
  | yaml => exact ⟨nofun, fun _ => rfl⟩
  | reported _ htext =>
    rcases htext with rfl | htext
    · exact ⟨nofun, nofun⟩
    · exact absurd (htext p hp) hno

theorem report (h : Checked disk color files format result)
    (hread : ∀ p ∈ files, Readable disk p) (htext : format = .text ∨ ∀ p ∈ files, IsText p) :
    ∃ rs r, List.Forall₂ (ReportOn disk) files rs ∧ result = .ok r ∧
      Report.Printed color rs format r.output ∧
      (r.hasErrors = true ↔ ∃ r ∈ rs, ∃ f ∈ r.findings, f.severity = .error) := by
  cases h with
  | unreadable hfiles _ hwhy => exact absurd (hread _ (by simp [hfiles])) hwhy.not_readable
  | json _ hno =>
    obtain ⟨p, hp, hno⟩ := hno
    exact absurd (htext.resolve_left nofun p hp) hno
  | yaml _ hno =>
    obtain ⟨p, hp, hno⟩ := hno
    exact absurd (htext.resolve_left nofun p hp) hno
  | @reported _ rs output hrs _ hprinted =>
    exact ⟨rs, _, hrs, rfl, hprinted, Report.any_hasErrors_iff⟩

end Checked

/-- The verdict is read off the files, before the report is rendered. -/
theorem hasErrors_of_check {disk : Disk} {format : ReportFormat} {color : Bool}
    {files : List Bytes} {r : CheckResult} (h : check disk format color files = .ok r) :
    ∃ rs, checkFiles disk files = .ok rs ∧ r.hasErrors = rs.any FileReport.hasErrors := by
  unfold check at h
  split at h
  · cases h
  · rename_i rs hrs
    split at h
    · cases h
    · cases h
      exact ⟨rs, hrs, rfl⟩

/-- The exit code and the output of a run are those of the check. -/
theorem start_check {env : Environment} {disk : Disk} {args : List Bytes} {files : List Bytes}
    {format : ReportFormat} (h : Invocation.parse args = .ok (.check files format)) :
    ∃ outcome, start env disk args = .finished outcome ∧
      match check disk format (colorWanted (fullEnvironment env disk)) files with
      | .ok r => outcome.exit = (if r.hasErrors then 1 else 0) ∧ outcome.output = r.output
      | .error _ => outcome.exit = 1 ∧ outcome.output = "" := by
  simp only [start, h, startCommand, Start.filtered, runCheck]
  refine ⟨_, rfl, ?_⟩
  split
  · rename_i heq; simp [heq]
  · rename_i heq; simp [heq]

/-- **All or nothing.** If some file holds no text, the first such file is the error; if all do but
a path is no text itself, a report as data is the error; otherwise one report covers every file,
with the findings of its text, and the verdict is whether one of them is an error. The verdict
is the same in every format, a run prints nothing but the report, and it exits with zero exactly
if there is a report without an error. -/
theorem check_all_or_nothing (disk : Disk) (format : ReportFormat) (color : Bool)
    (files : List Bytes) :
    ((∃ p ∈ files, ¬ Readable disk p) →
      ∃ before path behind why, files = before ++ path :: behind ∧
        (∀ p ∈ before, Readable disk p) ∧ Unreadable disk path why ∧
        check disk format color files = .error (loadError path why)) ∧
    ((∀ p ∈ files, Readable disk p) → (∃ p ∈ files, ¬ IsText p) →
      (format = .json → check disk format color files = .error (.json Report.pathFault)) ∧
      (format = .yaml → check disk format color files = .error (.yaml Report.pathFault))) ∧
    ((∀ p ∈ files, Readable disk p) → (format = .text ∨ ∀ p ∈ files, IsText p) →
      ∃ rs r, List.Forall₂ (ReportOn disk) files rs ∧ check disk format color files = .ok r ∧
        Report.Printed color rs format r.output ∧
        (r.hasErrors = true ↔ ∃ r ∈ rs, ∃ f ∈ r.findings, f.severity = .error)) ∧
    (∀ format' color' r r', check disk format color files = .ok r →
      check disk format' color' files = .ok r' → r.hasErrors = r'.hasErrors) ∧
    ∀ env args, Invocation.parse args = .ok (.check files format) →
      ∃ outcome, start env disk args = .finished outcome ∧
        (outcome.exit = 0 ↔ ∃ r,
          check disk format (colorWanted (fullEnvironment env disk)) files = .ok r ∧
            r.hasErrors = false) ∧
        (∀ r, check disk format (colorWanted (fullEnvironment env disk)) files = .ok r →
          outcome.output = r.output) ∧
        ∀ e, check disk format (colorWanted (fullEnvironment env disk)) files = .error e →
          outcome.output = "" := by
  have hchecked := checked disk format color files
  refine ⟨hchecked.first_unreadable, hchecked.no_data, hchecked.report, ?_, ?_⟩
  · intro format' color' r r' hr hr'
    obtain ⟨rs, hrs, herrors⟩ := hasErrors_of_check hr
    obtain ⟨rs', hrs', herrors'⟩ := hasErrors_of_check hr'
    rw [hrs] at hrs'
    cases hrs'
    rw [herrors, herrors']
  · intro env args hparse
    obtain ⟨outcome, hstart, houtcome⟩ := start_check hparse
    refine ⟨outcome, hstart, ?_⟩
    cases hcheck : check disk format (colorWanted (fullEnvironment env disk)) files with
    | error e =>
      simp only [hcheck] at houtcome
      simp [houtcome]
    | ok r =>
      simp only [hcheck] at houtcome
      simp [houtcome]

end Command

end AppConfig
