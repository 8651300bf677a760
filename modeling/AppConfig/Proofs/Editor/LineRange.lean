import AppConfig.Editor.Diagnostic
import AppConfig.Proofs.Locate.Pattern
import AppConfig.Proofs.Text.Utf16
import AppConfig.Proofs.Validation.Placement

/-!
# AppConfig.Proofs.Editor.LineRange

The range of a diagnostic is a line of the document as it is open in the editor, from its first
column to its last. Findings count the lines of the text without its byte-order mark; the mark
belongs to the first line, so the numbers are the same, but the width of that line is not.
-/

namespace AppConfig

theorem FindingKind.code_injective {a b : FindingKind} (h : a.code = b.code) : a = b := by
  cases a <;> cases b <;> first | rfl | (simp [FindingKind.code] at h)

namespace Editor

/-- A diagnostic speaks of a field when its message says what the value at its path must be. -/
def Diagnostic.About (d : Diagnostic) (field : Field) : Prop :=
  ∃ wanted, d.message = "\"" ++ field.path ++ "\" must be " ++ wanted

theorem about_diagnosticOf_iff {text : List Char} {f : Finding} {field : Field} :
    (diagnosticOf text f).About field ↔ f.About field := Iff.rfl

theorem lineRange_eq {text line : List Char} {l : Nat} (hline : Text.LineAt text l line)
    (hl : l < wordLimit) (hwidth : Text.units line < wordLimit) :
    lineRange text l = ⟨⟨l, 0⟩, ⟨l, (Text.utf16 line).length⟩⟩ := by
  have hzero : 0 % wordLimit = 0 := Nat.zero_mod _
  rw [lineRange, hline.line?_eq, Option.map_some, Option.getD_some, Range.onLine,
    Nat.mod_eq_of_lt hl, Nat.mod_eq_of_lt hwidth, hzero, Text.length_utf16]

/-- The line with a number is the first one of the form of a field's pattern. -/
def IsFirstMatch (text : List Char) (n : Nat) (field : List Char) : Prop :=
  MatchesAt text n field ∧ ∀ m < n, ¬ MatchesAt text m field

theorem isFirstMatch_of_findFieldLine {text field : List Char} {n : Nat}
    (h : findFieldLine text field = some n) : IsFirstMatch text n field := by
  obtain ⟨hat, hbefore⟩ := findFieldLine_eq_some_iff.mp h
  obtain ⟨line, indent, -, hdeclares⟩ := id hat
  simp only [IsFirstMatch, ← declaresAt_iff_matchesAt hdeclares.isName]
  exact ⟨hat, hbefore⟩

/-- **Diagnostics cover lines.** Unless the text cannot be read, a diagnostic covers a whole line that
the document has, with its byte-order mark if it has one. One about the type or the range of a value
speaks of one field, and if a line declares that field, it is on the first that does. -/
theorem diagnostics_cover_lines {text : List Char} (hlines : (Text.lines text).length < wordLimit)
    (hwidth : ∀ line ∈ Text.lines text, Text.units line < wordLimit) :
    ∀ d ∈ diagnose text, d.code ≠ FindingKind.syntaxError.code →
      ∃ l line, Text.LineAt text l line ∧
        d.range = ⟨⟨l, 0⟩, ⟨l, (Text.utf16 line).length⟩⟩ ∧
        (d.code = FindingKind.typeMismatch.code ∨ d.code = FindingKind.outOfRange.code →
          ∃ field ∈ Schema.fields, d.About field ∧
            (∀ other ∈ Schema.fields, d.About other → other = field) ∧
            ∀ n, findFieldLine (Text.dropBom text) field.key.toList = some n →
              l = n ∧ IsFirstMatch (Text.dropBom text) l field.key.toList) := by
  intro d hd hcode
  obtain ⟨f, hf, rfl⟩ := List.mem_map.mp hd
  have hkind : f.kind ≠ .syntaxError := fun hkind => hcode (congrArg FindingKind.code hkind)
  have hlt := line_lt_length_of_mem_validateText hf hkind
  obtain ⟨line, hline⟩ := Text.exists_lineAt_iff.mpr hlt
  have hmem : line ∈ Text.lines text := List.mem_of_getElem? hline.line?_eq
  refine ⟨f.line, line, hline, lineRange_eq hline (by omega) (hwidth line hmem), ?_⟩
  intro hcodes
  have hkinds : f.kind = .typeMismatch ∨ f.kind = .outOfRange :=
    hcodes.imp FindingKind.code_injective FindingKind.code_injective
  obtain ⟨field, hfield, habout, hplace⟩ := placed_of_mem_validateText hf hkinds
  refine ⟨field, hfield, about_diagnosticOf_iff.mpr habout, ?_, ?_⟩
  · intro other hother habout'
    exact (about_diagnosticOf_iff.mp habout').unique hother hfield habout
  · intro n hn
    have hline : f.line = n := by rw [hplace, locateField, hn, Option.getD_some]
    rw [hline]
    exact ⟨rfl, isFirstMatch_of_findFieldLine hn⟩

/-- A mark in front of the first line, carriage returns, and a character of two units. -/
def markedText : List Char := "\uFEFFversion: 1.0\r\nname: '𝄞'\r\nenabled: '𝄞'\n".toList

theorem diagnostics_cover_lines_markedText :
    (Text.lines markedText).length < wordLimit ∧
    (∀ line ∈ Text.lines markedText, Text.units line < wordLimit) ∧
    ∃ d ∈ diagnose markedText, d.code = FindingKind.typeMismatch.code ∧ d.severity = .error ∧
      ∃ line, Text.LineAt markedText 0 line ∧
        d.range = ⟨⟨0, 0⟩, ⟨0, (Text.utf16 line).length⟩⟩ ∧ (Text.utf16 line).length = 13 := by
  have hlines : (Text.lines markedText).length < wordLimit := by decide
  have hwidth : ∀ line ∈ Text.lines markedText, Text.units line < wordLimit := by decide
  obtain ⟨d, hd, hcode, hseverity, hstart, hstop⟩ : ∃ d ∈ diagnose markedText,
      d.code = FindingKind.typeMismatch.code ∧ d.severity = .error ∧ d.range.start.line = 0 ∧
        d.range.stop.character = 13 := by decide +kernel
  have hread : d.code ≠ FindingKind.syntaxError.code := by rw [hcode]; decide
  obtain ⟨l, line, hline, hrange, -⟩ := diagnostics_cover_lines hlines hwidth d hd hread
  rw [hrange] at hstart hstop
  obtain rfl : l = 0 := hstart
  exact ⟨hlines, hwidth, d, hd, hcode, hseverity, line, hline, hrange, hstop⟩

end Editor

end AppConfig
