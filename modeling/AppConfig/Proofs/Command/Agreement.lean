import AppConfig.Proofs.Command.Verdict
import AppConfig.Proofs.Editor.Edits
import AppConfig.Proofs.Validation.Placement
import AppConfig.Proofs.Yaml.Failing

/-!
# AppConfig.Proofs.Command.Agreement

The command line and the editor report the same problems of a text.

* `line_lt_of_mem_validateText` — a finding is on one of the lines that an editor can number. The
  line of a syntax error counts breaks of every kind, all other lines end at line feeds.
* `Editor.Workspace.published_opened` — what is published for a document from the moment it is
  opened until its delay is over.
* `Finding.ShownBy` — a diagnostic says what a finding says.
* `Command.exit_of_holds` — the exit code of a check of one file.
-/

namespace AppConfig

open Editor (Diagnostic Publication Uri wordLimit)

/-! ## The lines of findings -/

theorem lineCount_dropBom_le (text : List Char) :
    Yaml.lineCount (Text.dropBom text) ≤ Yaml.lineCount text := by
  cases text with
  | nil => exact Nat.le_refl _
  | cons c cs =>
    rw [Text.dropBom]
    split
    · exact Nat.le_trans (Yaml.linesFrom_false_le cs) (Yaml.linesFrom_tail_le false c cs)
    · exact Nat.le_refl _

theorem line_syntaxFinding_le {text : List Char} {e : ReadFailure} (h : parse text = .error e) :
    (syntaxFinding e).line ≤ Yaml.lineCount text := by
  cases hread : Yaml.read (Text.dropBom text) with
  | ok v => simp [parse, hread, Except.mapError] at h
  | error f =>
    obtain rfl : ReadFailure.ofYaml f = e := by simpa [parse, hread, Except.mapError] using h
    cases hmark : f.mark? with
    | none =>
      simp [syntaxFinding, Finding.error, ReadFailure.line?, ReadFailure.ofYaml,
        Yaml.Failure.location?, hmark]
    | some m =>
      have hline := Nat.le_trans (Yaml.read_error_within hread m hmark) (lineCount_dropBom_le text)
      simpa [syntaxFinding, Finding.error, ReadFailure.line?, ReadFailure.ofYaml,
        Yaml.Failure.location?, hmark] using hline

theorem line_lt_of_mem_validateText {text : List Char} {f : Finding} (h : f ∈ validateText text)
    (hlines : (Text.lines text).length < wordLimit)
    (hbreaks : ∀ e, parse (Text.dropBom text) = .error e → Yaml.lineCount text < wordLimit) :
    f.line < wordLimit := by
  have hverdict := verdict_validateText text
  generalize validateText text = fs at *
  cases hverdict with
  | blank => contradiction
  | @unreadable e _ he =>
    obtain rfl := List.mem_singleton.mp h
    have hline := line_syntaxFinding_le he
    have hbom := lineCount_dropBom_le text
    have hcount := hbreaks e he
    omega
  | noMapping =>
    obtain rfl := List.mem_singleton.mp h
    decide
  | document hblank =>
    have hline := line_lt_of_mem_validate (ne_nil_of_not_blank hblank) h
    have hbom := Text.length_lines_dropBom_le text
    omega

/-! ## Opening a document -/

namespace Editor.Workspace

variable {w : Workspace} {a : Action} {doc : Document}

/-- Whatever a step publishes for an open document is about the document as it is then. -/
theorem eq_ofDocument_of_mem_emitted {uri : Uri} {p : Publication} (hclose : a.close? = none)
    (hdoc : (a.applyTo w.documents.store).get? uri = some doc) (hp : p ∈ w.emitted a)
    (huri : p.uri = uri) : p = .ofDocument uri doc := by
  rw [emitted, hclose, Option.map_none, Option.toList_none, List.nil_append] at hp
  obtain ⟨t, -, hanswer⟩ := List.mem_filterMap.mp hp
  obtain rfl := answer?_request hanswer
  rw [truth_uri] at huri
  rw [huri, truth, hdoc]

theorem ofDocument_mem_emitted {t : Timer}
    (ht : t ∈ w.documents.timers ++ (a.timer? w.documents).toList)
    (hdue : t.due ≤ w.documents.clock + a.duration)
    (hdoc : (a.applyTo w.documents.store).get? t.uri = some doc)
    (hversion : doc.version = t.version) :
    .ofDocument t.uri doc ∈ w.emitted a := by
  refine List.mem_append_right _ (List.mem_filterMap.mpr ⟨t, ?_, ?_⟩)
  · exact List.mem_filter.mpr ⟨ht, by simpa using hdue⟩
  · simp [Timer.request, answer?, hdoc, hversion]

/-- The workspace after a document was opened and its delay is over. -/
def opened (w : Workspace) (uri : Uri) (doc : Document) : Workspace :=
  (((w.perform (.update uri doc.version doc.content)).1).perform
    (.advance w.documents.debounce)).1

/-- An opened document is published within its delay, and nothing else is for its URI. -/
theorem published_opened (h : w.Rested) (uri : Uri) (doc : Document) :
    ∃ new, (w.opened uri doc).published = w.published ++ new ∧ .ofDocument uri doc ∈ new ∧
      ∀ p ∈ new, p.uri = uri → p = .ofDocument uri doc := by
  rw [opened]
  generalize hopening : Action.update uri doc.version doc.content = opening
  have hdocuments := perform_documents w opening
  have hrested := perform_rested w opening
  have hpublished := perform_published h opening
  generalize (w.perform opening).1 = w' at hdocuments hrested hpublished ⊢
  have hdoc : (opening.applyTo w.documents.store).get? uri = some doc := by
    subst hopening
    simp [Action.get?_applyTo, Action.subject?, Action.edit?]
  have hdoc' : ((Action.advance w.documents.debounce).applyTo w'.documents.store).get? uri =
      some doc := by
    rw [hdocuments]
    exact hdoc
  refine ⟨w.emitted opening ++ w'.emitted (.advance w.documents.debounce), ?_, ?_, ?_⟩
  · rw [perform_published hrested, hpublished, List.append_assoc]
  · have ht : ⟨w.documents.clock + w.documents.debounce, uri, doc.version⟩ ∈
        w.documents.timers ++ (opening.timer? w.documents).toList := by
      subst hopening
      simp [Action.timer?, Action.edit?]
    have hduration : opening.duration = 0 := by subst hopening; rfl
    rw [List.mem_append]
    -- without a delay the timer has run out at once, else it does when the delay is over
    by_cases hd : w.documents.debounce = 0
    · left
      exact ofDocument_mem_emitted ht (by simp [hd]) hdoc rfl
    · right
      refine ofDocument_mem_emitted
        (t := ⟨w.documents.clock + w.documents.debounce, uri, doc.version⟩)
        (List.mem_append_left _ ?_) ?_ hdoc' rfl
      · rw [hdocuments, hduration]
        exact List.mem_filter.mpr ⟨ht, by simp; omega⟩
      · rw [hdocuments, hduration]
        exact Nat.le_refl _
  · intro p hp huri
    rcases List.mem_append.mp hp with hp | hp
    · exact eq_ofDocument_of_mem_emitted (by subst hopening; rfl) hdoc hp huri
    · exact eq_ofDocument_of_mem_emitted rfl hdoc' hp huri

end Editor.Workspace

/-! ## The same problems -/

/-- The number of the severity that a diagnostic is sent with. -/
def Editor.Diagnostic.Sent (d : Diagnostic) (number : Nat) : Prop :=
  d.toJson.get? "severity" = some (.nat number)

/-- A diagnostic says what a finding says: its message, its severity, its kind by the name that it
has in a report, and its line by the number that a report prints. -/
structure Finding.ShownBy (f : Finding) (d : Diagnostic) : Prop where
  message : d.message = f.message
  error_iff : d.Sent 1 ↔ f.severity = .error
  warning_iff : d.Sent 2 ↔ f.severity = .warning
  code : f.toJson.get? "kind" = some (.str d.code)
  line : ∀ color path, ∃ rest,
    Report.findingLine color path f =
      path ++ ":" ++ toString (d.range.start.line + 1) ++ ": " ++ rest

theorem Editor.Diagnostic.sent_iff {d : Diagnostic} {number : Nat} :
    d.Sent number ↔ severityNumber d.severity = number := by
  have hget : d.toJson.get? "severity" = some (.nat (severityNumber d.severity)) := rfl
  rw [Sent, hget]
  simp [Json.nat]

theorem Editor.Diagnostic.severityNumber_eq_one {s : Severity} :
    severityNumber s = 1 ↔ s = .error := by
  cases s <;> simp [severityNumber]

theorem Editor.Diagnostic.severityNumber_eq_two {s : Severity} :
    severityNumber s = 2 ↔ s = .warning := by
  cases s <;> simp [severityNumber]

theorem Finding.shownBy_diagnosticOf {f : Finding} (h : f.line < wordLimit) (text : List Char) :
    f.ShownBy (Editor.diagnosticOf text f) where
  message := rfl
  error_iff := Diagnostic.sent_iff.trans Diagnostic.severityNumber_eq_one
  warning_iff := Diagnostic.sent_iff.trans Diagnostic.severityNumber_eq_two
  code := rfl
  line := by
    intro color path
    have hline : (Editor.diagnosticOf text f).range.start.line = f.line := Nat.mod_eq_of_lt h
    refine ⟨(Report.severityStyle f.severity).apply color f.severity.name ++
      (": " ++ (f.message ++ "\n")), ?_⟩
    rw [hline]
    simp only [Report.findingLine, String.append_assoc]

/-- Each finding of a text is shown by one diagnostic, in order. -/
theorem shownBy_diagnose {text : List Char} (h : ∀ f ∈ validateText text, f.line < wordLimit) :
    List.Forall₂ Finding.ShownBy (validateText text) (Editor.diagnose text) := by
  rw [Editor.diagnose, Editor.diagnosticsOf, List.forall₂_map_right_iff, List.forall₂_same]
  intro f hf
  exact Finding.shownBy_diagnosticOf (h f hf) text

theorem exists_error_iff_exists_sent {text : List Char} :
    (∃ f ∈ validateText text, f.severity = .error) ↔ ∃ d ∈ Editor.diagnose text, d.Sent 1 := by
  have hsent (f : Finding) : (Editor.diagnosticOf text f).Sent 1 ↔ f.severity = .error :=
    Diagnostic.sent_iff.trans Diagnostic.severityNumber_eq_one
  simp [Editor.diagnose, Editor.diagnosticsOf, hsent]

namespace Command

theorem checkFile_of_holds {disk : Disk} {path : Bytes} {text : List Char}
    (h : Holds disk path text) : checkFile disk path = .ok ⟨path, validateText text⟩ := by
  have hread : readText disk path = .ok text := by
    rw [Holds] at h
    simp [readText, h, Text.utf8?_eq_some_iff.mpr rfl]
  rw [checkFile, hread]

/-- A run on one file exits with zero or one, and with one exactly if a finding is an error or the
path cannot be written in the report. -/
theorem exit_of_holds {disk : Disk} {path : Bytes} {text : List Char} (h : Holds disk path text)
    (env : Environment) {args : List Bytes} {format : ReportFormat}
    (hparse : Invocation.parse args = .ok (.check [path] format)) :
    ∃ outcome, start env disk args = .finished outcome ∧
      (outcome.exit = 0 ∨ outcome.exit = 1) ∧
      (outcome.exit = 1 ↔ (∃ f ∈ validateText text, f.severity = .error) ∨
        format ≠ .text ∧ ¬ Text.IsText path) := by
  obtain ⟨outcome, hstart, houtcome⟩ := @start_check env disk args [path] format hparse
  refine ⟨outcome, hstart, ?_⟩
  have hread : ∀ p ∈ [path], Readable disk p := by simpa using ⟨text, h⟩
  have hchecked := checked disk format (colorWanted (fullEnvironment env disk)) [path]
  by_cases hformat : format = .text ∨ Text.IsText path
  · obtain ⟨_, result, -, hcheck, -, -⟩ := hchecked.report hread (by simpa using hformat)
    obtain ⟨rs, hrs, herrors⟩ := hasErrors_of_check hcheck
    obtain rfl : [⟨path, validateText text⟩] = rs := by
      simpa [checkFiles, checkFile_of_holds h] using hrs
    have hresult : result.hasErrors = true ↔ ∃ f ∈ validateText text, f.severity = .error := by
      rw [herrors, Report.any_hasErrors_iff]
      simp
    have hwritten : ¬ (format ≠ .text ∧ ¬ Text.IsText path) := by
      rwa [not_and_or, not_not, not_not]
    rw [hcheck] at houtcome
    rw [houtcome.1, ← hresult, or_iff_left hwritten]
    cases result.hasErrors <;> simp
  · obtain ⟨hdata, hpath⟩ := not_or.mp hformat
    obtain ⟨hjson, hyaml⟩ := hchecked.no_data hread (by simpa using hpath)
    have hexit : outcome.exit = 1 := by
      cases format with
      | text => exact absurd rfl hdata
      | json =>
        rw [hjson rfl] at houtcome
        exact houtcome.1
      | yaml =>
        rw [hyaml rfl] at houtcome
        exact houtcome.1
    exact ⟨.inr hexit, fun _ => .inr ⟨hdata, hpath⟩, fun _ => hexit⟩

end Command

open Command (Holds checkFile)

/-- The command line and the editor report the same problems of a text: each finding of a checked
file is shown by one diagnostic of the document, in order. A check exits with one exactly if opening
the document publishes a diagnostic of severity one, or if the report is data and the path, which is
written in it, is no text. An editor numbers fewer than `2 ^ 32` lines; in a text that cannot be
read they are counted as the reader counts them, which ends a line at breaks of every kind. -/
theorem front_ends_agree {disk : Disk} {path : Bytes} {text : List Char}
    (hfile : Holds disk path text) (hlines : (Text.lines text).length < wordLimit)
    (hbreaks : ∀ e, parse (Text.dropBom text) = .error e → Yaml.lineCount text < wordLimit) :
    ∃ r, checkFile disk path = .ok r ∧
      (∀ (w : Editor.Workspace) (uri : Uri) (version : Int),
        w.worker = .holding uri ⟨version, text⟩ →
        ∃ ds, w.work.published = w.published ++ [⟨uri, some version, ds⟩] ∧
          List.Forall₂ Finding.ShownBy r.findings ds) ∧
      ∀ (w : Editor.Workspace) (uri : Uri) (version : Int), w.Rested →
        ∃ new, (w.opened uri ⟨version, text⟩).published = w.published ++ new ∧
          (∃ p ∈ new, p.uri = uri) ∧
          (∀ p ∈ new, p.uri = uri →
            p.version = some version ∧ List.Forall₂ Finding.ShownBy r.findings p.diagnostics) ∧
          ∀ env args format, Invocation.parse args = .ok (.check [path] format) →
            ∃ outcome, Command.start env disk args = .finished outcome ∧
              (outcome.exit = 0 ∨ outcome.exit = 1) ∧
              (outcome.exit = 1 ↔
                (∃ p ∈ new, p.uri = uri ∧ ∃ d ∈ p.diagnostics, d.Sent 1) ∨
                  format ≠ .text ∧ ¬ Text.IsText path) := by
  have hshown := shownBy_diagnose fun f hf => line_lt_of_mem_validateText hf hlines hbreaks
  refine ⟨_, Command.checkFile_of_holds hfile, ?_, ?_⟩
  · intro w uri version hholding
    refine ⟨_, ?_, hshown⟩
    rw [Editor.Workspace.work, hholding]
    rfl
  · intro w uri version hrested
    obtain ⟨new, hpublished, hmem, honly⟩ :=
      Editor.Workspace.published_opened hrested uri ⟨version, text⟩
    refine ⟨new, hpublished, ⟨_, hmem, rfl⟩, ?_, ?_⟩
    · intro p hp huri
      obtain rfl := honly p hp huri
      exact ⟨rfl, hshown⟩
    · intro env args format hparse
      obtain ⟨outcome, hstart, hcode, hexit⟩ := Command.exit_of_holds hfile env hparse
      refine ⟨outcome, hstart, hcode, hexit.trans (or_congr_left ?_)⟩
      rw [exists_error_iff_exists_sent]
      constructor
      · rintro ⟨d, hd, hsent⟩
        exact ⟨_, hmem, rfl, d, hd, hsent⟩
      · rintro ⟨p, hp, huri, d, hd, hsent⟩
        obtain rfl := honly p hp huri
        exact ⟨d, hd, hsent⟩

/-- A bracket that is not closed is a syntax error at the end of the text, behind its only line. -/
theorem front_ends_agree_unclosed :
    ∃ r, checkFile (fun _ => .ok (Text.utf8 "name: [\n".toList)) [0x61] = .ok r ∧
      r.findings.map (·.line) = [1] ∧
      ∃ p ∈ ((Editor.Workspace.start 300).opened "a" ⟨1, "name: [\n".toList⟩).published,
        p.uri = "a" ∧ List.Forall₂ Finding.ShownBy r.findings p.diagnostics := by
  have hfile : Holds (fun _ => .ok (Text.utf8 "name: [\n".toList)) [0x61] "name: [\n".toList := rfl
  obtain ⟨r, hr, -, hopen⟩ := front_ends_agree hfile (by decide) fun _ _ => by decide
  obtain ⟨new, hpublished, ⟨p, hp, huri⟩, honly, -⟩ :=
    hopen (.start 300) "a" 1 (Editor.Workspace.start_rested 300)
  refine ⟨r, hr, ?_, p, ?_, huri, (honly p hp huri).2⟩
  · obtain rfl := Except.ok.inj ((Command.checkFile_of_holds hfile).symm.trans hr)
    decide +kernel
  · rw [hpublished]
    exact List.mem_append_right _ hp

/-- A check can fail without a diagnostic: there is nothing to say of this text, but a path that is
no text cannot be written in a report as data. -/
theorem check_fails_without_diagnostics :
    Holds (FileTree.read ⟨[([[0xFF]], .file (Text.utf8 "name: a\nversion: b\n".toList))]⟩) [0xFF]
        "name: a\nversion: b\n".toList ∧
      (∃ outcome, Command.start []
          (FileTree.read ⟨[([[0xFF]], .file (Text.utf8 "name: a\nversion: b\n".toList))]⟩)
          [Text.utf8 "check".toList, Text.utf8 "-f".toList, Text.utf8 "json".toList, [0xFF]] =
            .finished outcome ∧ outcome.exit = 1) ∧
      ((Editor.Workspace.start 300).opened "a" ⟨1, "name: a\nversion: b\n".toList⟩).published =
        [⟨"a", some 1, []⟩] := by
  have hfile : Holds (FileTree.read
      ⟨[([[0xFF]], .file (Text.utf8 "name: a\nversion: b\n".toList))]⟩) [0xFF]
      "name: a\nversion: b\n".toList := rfl
  have hparse : Invocation.parse [Text.utf8 "check".toList, Text.utf8 "-f".toList,
      Text.utf8 "json".toList, [0xFF]] = .ok (.check [[0xFF]] .json) := by decide +kernel
  have hpath : ¬ Text.IsText [0xFF] := Text.utf8?_eq_none_iff.mp (by decide +kernel)
  obtain ⟨outcome, hstart, -, hexit⟩ := Command.exit_of_holds hfile [] hparse
  refine ⟨hfile, ⟨outcome, hstart, hexit.mpr (.inr ⟨nofun, hpath⟩)⟩, ?_⟩
  decide +kernel

end AppConfig
