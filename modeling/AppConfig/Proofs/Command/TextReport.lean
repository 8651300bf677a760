import AppConfig.Command.Check
import AppConfig.Proofs.Locate.Declaration
import AppConfig.Proofs.Text.Utf8
import Mathlib.Data.List.Forall2

/-!
# AppConfig.Proofs.Command.TextReport

The report as text. It has entries for every file (`Accounts`), and a summary with the numbers of
files, errors and warnings (`closing`), which the counters hold as long as they fit (`tally_eq`).
Colours are all that colouring adds (`painted`): a coloured report without its colour codes is the
plain one (`Uncolors`).
-/

namespace AppConfig.Report

open Command (check checkFiles)

/-! ## Counting -/

/-- How many findings of a severity the reports hold. -/
def total (severity : Severity) (rs : List FileReport) : Nat :=
  (rs.flatMap (·.findings)).countP (·.severity = severity)

/-- The numbers of the files, errors and warnings of some reports. -/
def totals (rs : List FileReport) : String :=
  toString rs.length ++ " file(s) checked, " ++ toString (total .error rs) ++ " error(s), " ++
    toString (total .warning rs) ++ " warning(s)"

theorem countP_error_add_countP_warning (fs : List Finding) :
    fs.countP (·.severity = .error) + fs.countP (·.severity = .warning) = fs.length := by
  induction fs with
  | nil => rfl
  | cons f fs ih =>
    simp only [List.countP_cons, List.length_cons, ← ih]
    cases f.severity with
    | error => simp; omega
    | warning => simp; omega

/-- One step of the counters. -/
theorem Tally.add_eq (t : Tally) (f : Finding) :
    t.add f = ⟨t.errors + .ofNat (if f.severity = .error then 1 else 0),
      t.warnings + .ofNat (if f.severity = .warning then 1 else 0)⟩ := by
  cases hseverity : f.severity with
  | error => simp [Tally.add, hseverity]
  | warning => simp [Tally.add, hseverity]

theorem foldl_add (t : Tally) (fs : List Finding) :
    fs.foldl Tally.add t =
      ⟨t.errors + .ofNat (fs.countP (·.severity = .error)),
        t.warnings + .ofNat (fs.countP (·.severity = .warning))⟩ := by
  induction fs generalizing t with
  | nil => simp
  | cons f fs ih =>
    rw [List.foldl_cons, ih, Tally.add_eq]
    simp only [Int32.add_assoc, ← Int32.ofNat_add, List.countP_cons, decide_eq_true_eq,
      Nat.add_comm]

/-- The counters hold the numbers of findings, as words. -/
theorem tally_eq (rs : List FileReport) :
    tally rs = ⟨.ofNat (total .error rs), .ofNat (total .warning rs)⟩ := by
  rw [tally, ← List.foldl_flatMap, foldl_add]
  simp [total]

section Few

variable {rs : List FileReport} (hfew : (rs.flatMap (·.findings)).length < twoTo 31)

include hfew

theorem toInt_ofNat_total (severity : Severity) :
    (Int32.ofNat (total severity rs)).toInt = total severity rs :=
  Int32.toInt_ofNat_of_lt (Nat.lt_of_le_of_lt List.countP_le_length hfew)

theorem errors_pos_iff : 0 < (tally rs).errors ↔ 0 < total .error rs := by
  rw [tally_eq, Int32.lt_iff_toInt_lt, toInt_ofNat_total hfew]
  simp

theorem summary_eq : summary rs = totals rs := by
  have hshow (severity : Severity) :
      toString (Int32.ofNat (total severity rs)) = toString (total severity rs) :=
    congrArg toString (toInt_ofNat_total hfew severity)
  rw [summary, tally_eq, hshow, hshow, totals]

end Few

theorem any_hasErrors_iff {rs : List FileReport} :
    rs.any FileReport.hasErrors = true ↔ ∃ r ∈ rs, ∃ f ∈ r.findings, f.severity = .error := by
  simp [FileReport.hasErrors, Finding.isError]

/-- There is an error to count exactly if a report has one. -/
theorem total_error_pos_iff (rs : List FileReport) :
    0 < total .error rs ↔ rs.any FileReport.hasErrors = true := by
  rw [any_hasErrors_iff, total, List.countP_pos_iff]
  simp only [List.mem_flatMap, decide_eq_true_eq]
  constructor
  · rintro ⟨f, ⟨r, hr, hf⟩, herror⟩
    exact ⟨r, hr, f, hf, herror⟩
  · rintro ⟨r, hr, f, hf, herror⟩
    exact ⟨f, ⟨r, hr, hf⟩, herror⟩

/-! ## Entries -/

/-- A text as a terminal gets it: between the escape sequences for some parameters and for none, or
without colours the text alone. -/
def painted (color : Bool) (parameters text : String) : String :=
  if color then "\x1b[" ++ parameters ++ "m" ++ text ++ "\x1b[0m" else text

/-- Errors are bold and red, warnings yellow. -/
def paintedSeverity (color : Bool) : Severity → String
  | .error => painted color "1;31" "error"
  | .warning => painted color "33" "warning"

theorem apply_severityStyle (color : Bool) (s : Severity) :
    (severityStyle s).apply color s.name = paintedSeverity color s := by
  cases s <;> rfl

/-- What is printed for a file: a green check mark and its path if it has no findings, and otherwise
one entry for each finding, in order. Lines are counted from one. A path that is no text is shown as
near as can be. -/
inductive Accounts (color : Bool) (r : FileReport) : List String → Prop where
  | clean : r.findings = [] →
      Accounts color r
        [painted color "32" "✓" ++ " " ++ String.ofList (Text.utf8Lossy r.path) ++ "\n"]
  | found {entries : List String} : r.findings ≠ [] →
      List.Forall₂ (fun f entry => entry =
        String.ofList (Text.utf8Lossy r.path) ++ ":" ++ toString (f.line + 1) ++ ": " ++
          paintedSeverity color f.severity ++ ": " ++ f.message ++ "\n") r.findings entries →
      Accounts color r entries

theorem accounts_fileLines (color : Bool) (r : FileReport) :
    Accounts color r (fileLines color r) := by
  unfold fileLines
  split
  · rename_i hnone
    exact .clean hnone
  · rename_i fs hsome
    refine .found hsome ?_
    rw [List.forall₂_map_right_iff, List.forall₂_same]
    intro f _
    rw [findingLine, apply_severityStyle, showPath]

theorem forall₂_accounts (color : Bool) (rs : List FileReport) :
    List.Forall₂ (Accounts color) rs (rs.map (fileLines color)) := by
  rw [List.forall₂_map_right_iff, List.forall₂_same]
  exact fun r _ => accounts_fileLines color r

theorem Accounts.length_eq {color : Bool} {r : FileReport} {entries : List String}
    (h : Accounts color r entries) :
    entries.length = (if r.findings = [] then 1 else 0) + r.findings.length := by
  cases h with
  | clean hnone => simp [hnone]
  | found hsome hentries => simp [hsome, hentries.length_eq]

/-- There are as many entries as files without findings, errors and warnings. -/
theorem length_flatten_of_accounts {color : Bool} {rs : List FileReport}
    {blocks : List (List String)} (h : List.Forall₂ (Accounts color) rs blocks) :
    blocks.flatten.length =
      rs.countP (·.findings = []) + (total .error rs + total .warning rs) := by
  rw [total, total, countP_error_add_countP_warning]
  induction h with
  | nil => rfl
  | cons hr _ ih =>
    simp only [List.flatten_cons, List.length_append, hr.length_eq, ih, List.countP_cons,
      List.flatMap_cons, decide_eq_true_eq]
    omega

/-- The last line: the numbers of files, errors and warnings, the latter two as words of 32 bits. It
is red if there are errors, and green otherwise. -/
def closing (color : Bool) (rs : List FileReport) : String :=
  let errors := Int32.ofNat (total .error rs)
  let warnings := Int32.ofNat (total .warning rs)
  painted color (if 0 < errors then "1;31" else "1;32")
    (toString rs.length ++ " file(s) checked, " ++ toString errors ++ " error(s), " ++
      toString warnings ++ " warning(s)")

/-- A report has the entries of its files, in order, an empty line and the last line. -/
theorem exists_accounts (color : Bool) (rs : List FileReport) :
    ∃ blocks, List.Forall₂ (Accounts color) rs blocks ∧
      text color rs = String.join blocks.flatten ++ "\n" ++ closing color rs ++ "\n" := by
  refine ⟨rs.map (fileLines color), forall₂_accounts color rs, ?_⟩
  simp only [text, summary, tally_eq, closing, List.flatMap_def]
  split <;> rfl

/-! ## Colours -/

/-- The escape character. -/
def escape : Char := '\x1b'

/-- The characters of the parameters in a colour code. -/
def isParameter (c : Char) : Bool := c.isDigit || c == ';'

/-- The text behind a colour code: the escape character, a bracket, parameters and an `m`. -/
def behindCode? : List Char → Option (List Char)
  | c :: d :: cs =>
    if c = escape ∧ d = '[' then
      match cs.dropWhile isParameter with
      | 'm' :: rest => some rest
      | _ => none
    else none
  | _ => none

theorem length_lt_of_behindCode? {cs rest : List Char} (h : behindCode? cs = some rest) :
    rest.length < cs.length := by
  unfold behindCode? at h
  split at h
  · rename_i c d cs
    split at h
    · split at h
      · rename_i hdrop
        cases h
        have hle := (List.dropWhile_sublist isParameter (l := cs)).length_le
        rw [hdrop, List.length_cons] at hle
        simp only [List.length_cons]
        omega
      · cases h
    · cases h
  · cases h

/-- A text without its colour codes. -/
def uncolored : List Char → List Char
  | [] => []
  | c :: cs =>
    match _h : behindCode? (c :: cs) with
    | some rest => uncolored rest
    | none => c :: uncolored cs
termination_by cs => cs.length
decreasing_by
  · exact length_lt_of_behindCode? _h
  · simp

theorem uncolored_cons {c : Char} (h : c ≠ escape) (cs : List Char) :
    uncolored (c :: cs) = c :: uncolored cs := by
  have hnone : behindCode? (c :: cs) = none := by
    unfold behindCode?
    split
    · rename_i heq
      cases heq
      rw [if_neg fun hcode => h hcode.1]
    · rfl
  rw [uncolored]
  split
  · rename_i hsome
    rw [hnone] at hsome
    contradiction
  · rfl

theorem uncolored_append {cs : List Char} (h : escape ∉ cs) (rest : List Char) :
    uncolored (cs ++ rest) = cs ++ uncolored rest := by
  induction cs with
  | nil => rfl
  | cons c cs ih =>
    rw [List.mem_cons, not_or] at h
    rw [List.cons_append, uncolored_cons (Ne.symm h.1), ih h.2, List.cons_append]

theorem uncolored_code {parameters : List Char} (h : parameters.all isParameter = true)
    (rest : List Char) :
    uncolored (escape :: '[' :: (parameters ++ 'm' :: rest)) = uncolored rest := by
  have hstop : ∀ c ∈ ('m' :: rest).head?, isParameter c = false := by
    intro c hc
    cases hc
    rfl
  have hsome : behindCode? (escape :: '[' :: (parameters ++ 'm' :: rest)) = some rest := by
    simp only [behindCode?, and_self, if_true, dropWhile_run (List.all_eq_true.mp h) hstop]
  rw [uncolored]
  split
  · rename_i hrest
    rw [hsome] at hrest
    cases hrest
    rfl
  · rename_i hnone
    rw [hsome] at hnone
    contradiction

/-- Without its colour codes the one text is the other, whatever follows. -/
def Uncolors (colored plain : String) : Prop :=
  ∀ rest, uncolored (colored.toList ++ rest) = plain.toList ++ uncolored rest

theorem Uncolors.uncolored_eq {colored plain : String} (h : Uncolors colored plain) :
    uncolored colored.toList = plain.toList := by
  have := h []
  rwa [List.append_nil, uncolored, List.append_nil] at this

theorem Uncolors.append {a b c d : String} (h : Uncolors a b) (h' : Uncolors c d) :
    Uncolors (a ++ c) (b ++ d) := by
  intro rest
  rw [String.toList_append, List.append_assoc, h, h', String.toList_append, List.append_assoc]

theorem uncolors_self {text : String} (h : escape ∉ text.toList) : Uncolors text text :=
  uncolored_append h

theorem uncolors_code {parameters : String} (h : parameters.toList.all isParameter = true) :
    Uncolors ("\x1b[" ++ parameters ++ "m") "" := by
  intro rest
  have hcode : ("\x1b[" ++ parameters ++ "m").toList ++ rest =
      escape :: '[' :: (parameters.toList ++ 'm' :: rest) := by
    simp [escape]
  rw [hcode, uncolored_code h]
  rfl

theorem uncolors_apply (s : Style) {text : String} (h : Uncolors text text) :
    Uncolors (s.apply true text) (s.apply false text) := by
  have hparameters : s.code.toList.all isParameter = true := by
    cases s <;> rfl
  have hreset : ("\x1b[" ++ "0" ++ "m" : String) = "\x1b[0m" := by decide
  have hzero : "0".toList.all isParameter = true := rfl
  have := ((uncolors_code hparameters).append h).append (uncolors_code hzero)
  rw [hreset] at this
  simpa [Style.apply] using this

theorem uncolors_toString (n : Nat) : Uncolors (toString n) (toString n) := by
  refine uncolors_self fun hm => ?_
  rw [Nat.toString_eq_repr, Nat.toList_repr] at hm
  have hdigit := Nat.isDigit_of_mem_toDigits (by decide) (by decide) hm
  contradiction

theorem uncolors_showPath {path : Bytes} (h : 0x1B ∉ path) :
    Uncolors (showPath path) (showPath path) := by
  refine uncolors_self fun hm => h ?_
  rw [showPath, String.toList_ofList] at hm
  exact Text.mem_of_mem_utf8Lossy hm (by decide)

theorem uncolors_join {as bs : List String} (h : List.Forall₂ Uncolors as bs) :
    Uncolors (String.join as) (String.join bs) := by
  induction h with
  | nil => exact uncolors_self (by decide)
  | cons hab _ ih =>
    rw [String.join_cons, String.join_cons]
    exact hab.append ih

/-- A report without escape characters in its path and its messages. -/
def NoEscapes (r : FileReport) : Prop :=
  0x1B ∉ r.path ∧ ∀ f ∈ r.findings, escape ∉ f.message.toList

theorem uncolors_findingLine {path : String} {f : Finding} (hpath : Uncolors path path)
    (hmessage : escape ∉ f.message.toList) :
    Uncolors (findingLine true path f) (findingLine false path f) := by
  have hname : Uncolors f.severity.name f.severity.name :=
    uncolors_self (by cases f.severity <;> decide)
  have hcolon : Uncolors ":" ":" := uncolors_self (by decide)
  have hgap : Uncolors ": " ": " := uncolors_self (by decide)
  have hfeed : Uncolors "\n" "\n" := uncolors_self (by decide)
  have hplace := ((hpath.append hcolon).append (uncolors_toString (f.line + 1))).append hgap
  have hseverity := uncolors_apply (severityStyle f.severity) hname
  exact (((hplace.append hseverity).append hgap).append (uncolors_self hmessage)).append hfeed

theorem uncolors_fileLines {r : FileReport} (h : NoEscapes r) :
    List.Forall₂ Uncolors (fileLines true r) (fileLines false r) := by
  have hpath := uncolors_showPath h.1
  unfold fileLines
  split
  · have hmark := uncolors_apply .green (uncolors_self (show escape ∉ "✓".toList by decide))
    have hgap : Uncolors " " " " := uncolors_self (by decide)
    have hfeed : Uncolors "\n" "\n" := uncolors_self (by decide)
    exact .cons (((hmark.append hgap).append hpath).append hfeed) .nil
  · rw [List.forall₂_map_left_iff, List.forall₂_map_right_iff, List.forall₂_same]
    exact fun f hf => uncolors_findingLine hpath (h.2 f hf)

theorem uncolors_entries {rs : List FileReport} (h : ∀ r ∈ rs, NoEscapes r) :
    List.Forall₂ Uncolors (rs.flatMap (fileLines true)) (rs.flatMap (fileLines false)) := by
  induction rs with
  | nil => exact .nil
  | cons r rs ih =>
    rw [List.flatMap_cons, List.flatMap_cons]
    exact List.rel_append (uncolors_fileLines (h r List.mem_cons_self))
      (ih fun r' hr' => h r' (List.mem_cons_of_mem _ hr'))

theorem uncolors_text {rs : List FileReport} (hfew : (rs.flatMap (·.findings)).length < twoTo 31)
    (h : ∀ r ∈ rs, NoEscapes r) : Uncolors (text true rs) (text false rs) := by
  have hsummary : Uncolors (summary rs) (summary rs) := by
    rw [summary_eq hfew, totals]
    have hfiles : Uncolors " file(s) checked, " " file(s) checked, " := uncolors_self (by decide)
    have herrors : Uncolors " error(s), " " error(s), " := uncolors_self (by decide)
    have hwarnings : Uncolors " warning(s)" " warning(s)" := uncolors_self (by decide)
    exact (((((uncolors_toString _).append hfiles).append (uncolors_toString _)).append
      herrors).append (uncolors_toString _)).append hwarnings
  have hfeed : Uncolors "\n" "\n" := uncolors_self (by decide)
  exact (((uncolors_join (uncolors_entries h)).append hfeed).append
    (uncolors_apply _ hsummary)).append hfeed

/-! ## The report -/

/-- **The text report.** In order, it has a green check mark with the path for each file without
findings and one entry for each finding of the others, with its severity in bold red or in yellow, no
more and no fewer; then an empty line, and a summary with the numbers of files, errors and warnings,
as long as the counters hold them. The summary is bold and red exactly if a check of these files
returns that there are errors, and green otherwise. Where no path and no message has an escape
character, the coloured report without its colour codes is the plain one. -/
theorem text_report_accounts {rs : List FileReport}
    (hfew : (rs.flatMap (·.findings)).length < twoTo 31) :
    (∀ color, ∃ (blocks : List (List String)) (style : Style),
      List.Forall₂ (Accounts color) rs blocks ∧
      blocks.flatten.length =
        rs.countP (·.findings = []) + (total .error rs + total .warning rs) ∧
      text color rs =
        String.join blocks.flatten ++ "\n" ++ style.apply color (totals rs) ++ "\n" ∧
      style.apply color (totals rs) =
        painted color (if 0 < total .error rs then "1;31" else "1;32") (totals rs) ∧
      style = (if 0 < total .error rs then .redBold else .greenBold) ∧
      ∀ disk files, checkFiles disk files = .ok rs →
        check disk .text color files = .ok ⟨decide (style = .redBold), text color rs⟩) ∧
    ((∀ r ∈ rs, NoEscapes r) → uncolored (text true rs).toList = (text false rs).toList) := by
  refine ⟨fun color => ?_, fun h => (uncolors_text hfew h).uncolored_eq⟩
  have haccounts := forall₂_accounts color rs
  have hcheck {disk : Disk} {files : List Bytes} (hfiles : checkFiles disk files = .ok rs) :
      check disk .text color files = .ok ⟨rs.any FileReport.hasErrors, text color rs⟩ := by
    rw [check, hfiles]
    rfl
  refine ⟨rs.map (fileLines color), _, haccounts, length_flatten_of_accounts haccounts, ?_, ?_, rfl,
    ?_⟩
  · simp only [text, errors_pos_iff hfew, summary_eq hfew, List.flatMap_def]
  · split <;> rfl
  · intro disk files hfiles
    rw [hcheck hfiles]
    -- both sides say whether there is an error
    by_cases hpos : 0 < total .error rs
    · rw [if_pos hpos, (total_error_pos_iff rs).mp hpos]
      rfl
    · rw [if_neg hpos, Bool.eq_false_iff.mpr fun h => hpos ((total_error_pos_iff rs).mpr h)]
      rfl

/-- The reports on a file without findings, and on one with two errors and a warning. -/
def mixedReports : List FileReport :=
  [⟨[0x61], []⟩, ⟨[0x62], validateText "enabled: 1\n".toList⟩]

/-- A disk with an empty file and the other one. -/
def mixedDisk : Disk := fun path =>
  if path = [0x61] then .ok [] else .ok (Text.utf8 "enabled: 1\n".toList)

theorem text_report_accounts_mixedReports :
    (mixedReports.flatMap (·.findings)).length < twoTo 31 ∧
    checkFiles mixedDisk [[0x61], [0x62]] = .ok mixedReports ∧
    (∀ r ∈ mixedReports, NoEscapes r) ∧
    (∃ blocks, List.Forall₂ (Accounts true) mixedReports blocks ∧ blocks.flatten.length = 4) ∧
    check mixedDisk .text true [[0x61], [0x62]] = .ok ⟨true, text true mixedReports⟩ ∧
    uncolored (text true mixedReports).toList = (text false mixedReports).toList := by
  have hfew : (mixedReports.flatMap (·.findings)).length < twoTo 31 := by decide +kernel
  have hfiles : checkFiles mixedDisk [[0x61], [0x62]] = .ok mixedReports := by decide +kernel
  have hescapes : ∀ r ∈ mixedReports, NoEscapes r := by
    unfold NoEscapes
    decide +kernel
  have herrors : 0 < total .error mixedReports := by decide +kernel
  obtain ⟨hreport, hplain⟩ := text_report_accounts hfew
  obtain ⟨blocks, style, haccounts, hlength, -, -, hstyle, hcheck⟩ := hreport true
  refine ⟨hfew, hfiles, hescapes, ⟨blocks, haccounts, ?_⟩, ?_, hplain hescapes⟩
  · rw [hlength]
    decide +kernel
  · rw [hcheck mixedDisk _ hfiles, hstyle, if_pos herrors]
    rfl

end AppConfig.Report
