import AppConfig.Command.Check
import AppConfig.Proofs.Json.RoundTrip
import AppConfig.Proofs.Text.Utf8
import Mathlib.Data.List.Forall2

/-!
# AppConfig.Proofs.Command.Lossless

A report as JSON tells all that it was made from. `Report.decode?` is the way back: it takes a list of
objects with a path and findings, each of them with a severity, a kind, a line and a message, and
nothing else. What a check prints is decoded to the reports it was made from, so no two lists of
reports are printed alike.
-/

namespace AppConfig

open Text (IsText wordBound)

/-! ## The way back -/

def Severity.ofName? : String → Option Severity
  | "error" => some .error
  | "warning" => some .warning
  | _ => none

theorem Severity.ofName?_name (s : Severity) : ofName? s.name = some s := by
  cases s <;> rfl

def FindingKind.ofCode? : String → Option FindingKind
  | "syntax-error" => some .syntaxError
  | "root-not-object" => some .rootNotObject
  | "missing-required-field" => some .missingRequiredField
  | "type-mismatch" => some .typeMismatch
  | "out-of-range" => some .outOfRange
  | _ => none

theorem FindingKind.ofCode?_code (k : FindingKind) : ofCode? k.code = some k := by
  cases k <;> rfl

/-- The finding that an object tells of; an object with other members, or in another order, tells of
none. -/
def Finding.ofJson? : Json → Option Finding
  | .obj [("severity", .str severity), ("kind", .str kind), ("line", .int line),
      ("message", .str message)] => do
    let severity ← Severity.ofName? severity
    let kind ← FindingKind.ofCode? kind
    let line ← line.toNat?
    some ⟨severity, kind, line, message⟩
  | _ => none

def FileReport.ofJson? : Json → Option FileReport
  | .obj [("path", .str path), ("findings", .arr findings)] => do
    let findings ← findings.mapM Finding.ofJson?
    some ⟨Text.utf8 path.toList, findings⟩
  | _ => none

namespace Report

def ofJson? : Json → Option (List FileReport)
  | .arr items => items.mapM FileReport.ofJson?
  | _ => none

/-- The reports that a text tells of. -/
def decode? (output : String) : Option (List FileReport) :=
  (Json.parse? output.toList).bind ofJson?

/-! ## Data -/

/-- The data of one report under the name of its path. -/
def entry (name : List Char) (r : FileReport) : Json :=
  .obj [("path", .str (String.ofList name)), ("findings", .arr (r.findings.map Finding.toJson))]

theorem isText_of_names {rs : List FileReport} {names : List (List Char)}
    (h : rs.map (·.path) = names.map Text.utf8) : ∀ r ∈ rs, IsText r.path := by
  intro r hr
  have hmem : r.path ∈ names.map Text.utf8 := h ▸ List.mem_map_of_mem hr
  obtain ⟨name, -, hname⟩ := List.mem_map.mp hmem
  exact ⟨name, hname.symm⟩

theorem json?_cases (rs : List FileReport) :
    (∃ names, rs.map (·.path) = names.map Text.utf8 ∧
      json? rs = some (.arr (List.zipWith entry names rs))) ∨
    (∃ r ∈ rs, ¬ IsText r.path) ∧ json? rs = none := by
  simp only [json?]
  induction rs with
  | nil => exact .inl ⟨[], rfl, rfl⟩
  | cons r rs ih =>
    rw [List.mapM_cons]
    cases hname : Text.utf8? r.path with
    | none =>
      right
      refine ⟨⟨r, List.mem_cons_self, Text.utf8?_eq_none_iff.mp hname⟩, ?_⟩
      simp [fileJson?, hname]
    | some name =>
      rcases ih with ⟨names, hnames, hdata⟩ | ⟨⟨r', hr', hno⟩, hdata⟩
      · left
        obtain ⟨items, hitems, harr⟩ := Option.map_eq_some_iff.mp hdata
        cases harr
        refine ⟨name :: names, ?_, ?_⟩
        · simp [hnames, Text.utf8?_eq_some_iff.mp hname]
        · simp [fileJson?, hname, hitems, entry]
      · right
        refine ⟨⟨r', List.mem_cons_of_mem _ hr', hno⟩, ?_⟩
        rw [Option.map_eq_none_iff] at hdata
        simp [fileJson?, hname, hdata]

theorem mapM_eq_some {α β : Type} {f : α → Option β} {as : List α} {bs : List β}
    (h : List.Forall₂ (fun a b => f a = some b) as bs) : as.mapM f = some bs := by
  induction h with
  | nil => rfl
  | cons hab _ ih => simp [List.mapM_cons, hab, ih]

theorem ofJson?_toJson (f : Finding) : Finding.ofJson? f.toJson = some f := by
  obtain ⟨severity, kind, line, message⟩ := f
  have hline : (line : Int).toNat? = some line := rfl
  simp [Finding.toJson, Finding.ofJson?, Json.nat, Severity.ofName?_name,
    FindingKind.ofCode?_code, hline]

theorem ofJson?_entry {name : List Char} {r : FileReport} (h : r.path = Text.utf8 name) :
    FileReport.ofJson? (entry name r) = some r := by
  obtain ⟨path, findings⟩ := r
  obtain rfl : path = Text.utf8 name := h
  have hfindings : (findings.map Finding.toJson).mapM Finding.ofJson? = some findings := by
    apply mapM_eq_some
    rw [List.forall₂_map_left_iff, List.forall₂_same]
    exact fun f _ => ofJson?_toJson f
  simp [entry, FileReport.ofJson?, hfindings]

/-- What holds of the data of one report holds of the data of all. -/
theorem forall₂_entry {p : Json → FileReport → Prop}
    (hp : ∀ {name r}, r.path = Text.utf8 name → p (entry name r) r)
    {names : List (List Char)} {rs : List FileReport}
    (h : rs.map (·.path) = names.map Text.utf8) :
    List.Forall₂ p (List.zipWith entry names rs) rs := by
  induction names generalizing rs with
  | nil => simp_all
  | cons name names ih =>
    cases rs with
    | nil => simp at h
    | cons r rs =>
      rw [List.map_cons, List.map_cons, List.cons.injEq] at h
      exact .cons (hp h.1) (ih h.2)

/-! ## Reading what was printed -/

/-- Line numbers are words of 64 bits. -/
def Numbered (rs : List FileReport) : Prop := ∀ r ∈ rs, ∀ f ∈ r.findings, f.line < wordBound

theorem exact_toJson {f : Finding} (h : f.line < wordBound) (depth : Nat) :
    Json.Exact (depth + 1) f.toJson := by
  have hlow : -(twoTo 63 : Int) ≤ (f.line : Int) := by omega
  have hhigh : (f.line : Int) < twoTo 64 := Int.ofNat_lt.mpr h
  apply Json.Exact.obj
  simp only [List.forall_mem_cons]
  exact ⟨.str, .str, .int hlow hhigh, .str, by simp⟩

theorem exact_entry {name : List Char} {r : FileReport} (h : ∀ f ∈ r.findings, f.line < wordBound)
    (depth : Nat) : Json.Exact (depth + 3) (entry name r) := by
  apply Json.Exact.obj
  simp only [List.forall_mem_cons]
  refine ⟨.str, .arr ?_, by simp⟩
  intro item hitem
  obtain ⟨f, hf, rfl⟩ := List.mem_map.mp hitem
  exact exact_toJson (h f hf) depth

theorem exact_entries (names : List (List Char)) {rs : List FileReport} (h : Numbered rs) :
    Json.Exact Json.depthLimit (.arr (List.zipWith entry names rs)) := by
  change Json.Exact (123 + 4) _
  apply Json.Exact.arr
  intro item hitem
  obtain ⟨i, hi, rfl⟩ := List.mem_iff_getElem.mp hitem
  rw [List.getElem_zipWith]
  exact exact_entry (h _ (List.getElem_mem _)) 123

theorem decode?_pretty {rs : List FileReport} {names : List (List Char)}
    (hnames : rs.map (·.path) = names.map Text.utf8) (h : Numbered rs) :
    decode? ((Json.arr (List.zipWith entry names rs)).pretty ++ "\n") = some rs := by
  have hread := Json.parse?_pretty (exact_entries names h) ['\n'] rfl
  have hdecode := mapM_eq_some (forall₂_entry ofJson?_entry hnames)
  rw [decode?, String.toList_append, show "\n".toList = ['\n'] from rfl, hread, Option.bind_some,
    ofJson?, hdecode]

/-- A printed report is decoded to what it was made from. -/
theorem decode?_of_render {rs : List FileReport} (h : Numbered rs) {color : Bool} {output : String}
    (hrender : render .json color rs = .ok output) : decode? output = some rs := by
  rcases json?_cases rs with ⟨names, hnames, hdata⟩ | ⟨-, hdata⟩
  · simp only [render, hdata] at hrender
    cases hrender
    exact decode?_pretty hnames h
  · simp only [render, hdata] at hrender
    cases hrender

/-- Reports with paths that are texts are printed. -/
theorem exists_render {rs : List FileReport} (h : ∀ r ∈ rs, IsText r.path) (color : Bool) :
    ∃ output, render .json color rs = .ok output := by
  rcases json?_cases rs with ⟨names, -, hdata⟩ | ⟨⟨r, hr, hno⟩, -⟩
  · simp only [render, hdata]
    exact ⟨_, rfl⟩
  · exact absurd (h r hr) hno

/-- **The JSON report is lossless.** Reports on files whose paths are texts are printed, and what is
printed is decoded to just these reports: to the same paths in the same order, and for each of them to
the same findings. It is what a check of the files prints. No other reports are printed like that. -/
theorem json_report_lossless {rs : List FileReport} (hpaths : ∀ r ∈ rs, IsText r.path)
    (hlines : Numbered rs) (color : Bool) :
    ∃ output, render .json color rs = .ok output ∧ decode? output = some rs ∧
      (∀ disk files, Command.checkFiles disk files = .ok rs →
        Command.check disk .json color files = .ok ⟨rs.any FileReport.hasErrors, output⟩) ∧
      ∀ rs' color', Numbered rs' → render .json color' rs' = .ok output → rs' = rs := by
  obtain ⟨output, hrender⟩ := exists_render hpaths color
  have hdecode := decode?_of_render hlines hrender
  refine ⟨output, hrender, hdecode, ?_, ?_⟩
  · intro disk files hfiles
    simp only [Command.check, hfiles, hrender]
  · intro rs' color' hlines' hrender'
    have hdecode' := decode?_of_render hlines' hrender'
    rw [hdecode] at hdecode'
    exact (Option.some.inj hdecode').symm

/-- Quotes, backslashes, control characters and wide characters in paths and messages, the largest
line number, and a file without findings. -/
def awkwardReports : List FileReport :=
  [⟨Text.utf8 "a\"\\\x07é𝄞".toList, []⟩,
    ⟨Text.utf8 "[\n]".toList,
      [⟨.error, .syntaxError, 18446744073709551615, "\x00\\u0041\x1f\x7f\u2028, \"line\": 1"⟩,
        ⟨.warning, .outOfRange, 0, ""⟩]⟩]

theorem json_report_lossless_awkwardReports :
    (∀ r ∈ awkwardReports, IsText r.path) ∧ Numbered awkwardReports ∧
    ∃ output, render .json false awkwardReports = .ok output ∧
      decode? output = some awkwardReports := by
  have hpaths : ∀ r ∈ awkwardReports, IsText r.path := by
    simp only [awkwardReports, List.forall_mem_cons]
    exact ⟨⟨_, rfl⟩, ⟨_, rfl⟩, by simp⟩
  have hlines : Numbered awkwardReports := by
    unfold Numbered awkwardReports
    decide
  obtain ⟨output, hrender, hdecode, -⟩ := json_report_lossless hpaths hlines false
  exact ⟨hpaths, hlines, output, hrender, hdecode⟩

end Report

end AppConfig
