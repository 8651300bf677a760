import AppConfig.Editor.Diagnostic
import AppConfig.Proofs.Editor.Completion
import AppConfig.Proofs.Text.Lines
import Mathlib.Data.List.Forall2

/-!
# AppConfig.Proofs.Editor.Mark

A byte-order mark in front of a text. It belongs to the first line (`Text.line?_bom_zero`,
`Text.line?_bom_succ`), and it is no white space.

* Validation drops it: the findings stay, and so do their diagnostics but for the width of the first
  line (`mark_transparent_to_diagnostics`).
* Hovers and completion do not: the mark hides the key and the indentation of the first line, and
  nothing else (`mark_hides_first_line`).
-/

namespace AppConfig

open Text (bom)

/-! ## The lines behind a mark -/

namespace Text

theorem line?_bom_zero (text : List Char) :
    line? (bom :: text) 0 = some (bom :: (line? text 0).getD []) := by
  rw [line?, line?, lines_bom]
  cases lines text with
  | nil => rfl
  | cons l ls => rfl

theorem line?_bom_succ (text : List Char) (n : Nat) :
    line? (bom :: text) (n + 1) = line? text (n + 1) := by
  rw [line?, line?, lines_bom]
  cases lines text with
  | nil => rfl
  | cons l ls => rfl

theorem units_bom (line : List Char) : units (bom :: line) = units line + 1 := by
  rw [units, Nat.add_comm]
  rfl

end Text

theorem validateText_bom {text : List Char} (h : text.head? ≠ some bom) :
    validateText (bom :: text) = validateText text := by
  have hmarked : Text.dropBom (bom :: text) = text := by rw [Text.dropBom, if_pos rfl]
  simp only [validateText, hmarked, Text.dropBom_eq_self h]

namespace Editor

/-! ## Diagnostics -/

/-- One more column at the end. Columns are words. -/
def Range.widen (r : Range) : Range :=
  ⟨r.start, ⟨r.stop.line, (r.stop.character + 1) % wordLimit⟩⟩

def Diagnostic.widen (d : Diagnostic) : Diagnostic := { d with range := d.range.widen }

theorem lineRange_bom_zero (text : List Char) :
    lineRange (bom :: text) 0 = (lineRange text 0).widen := by
  have hwidth : ((Text.line? (bom :: text) 0).map Text.units).getD 0 =
      ((Text.line? text 0).map Text.units).getD 0 + 1 := by
    rw [Text.line?_bom_zero, Option.map_some, Option.getD_some, Text.units_bom]
    cases Text.line? text 0 with
    | none => rfl
    | some line => rfl
  rw [lineRange, hwidth, lineRange, Range.widen]
  simp only [Range.onLine, Nat.mod_add_mod]

theorem diagnosticOf_bom (text : List Char) (f : Finding) :
    diagnosticOf (bom :: text) f =
      if f.line = 0 then (diagnosticOf text f).widen else diagnosticOf text f := by
  split
  · rename_i hline
    rw [diagnosticOf, diagnosticOf, hline, lineRange_bom_zero]
    rfl
  · rename_i hline
    obtain ⟨n, hn⟩ := Nat.exists_eq_succ_of_ne_zero hline
    rw [diagnosticOf, diagnosticOf, hn, lineRange, lineRange, Text.line?_bom_succ]

/-- `d'` is `d`, except that it ends one column further to the right if it is on the first line. -/
structure Diagnostic.Widened (d d' : Diagnostic) : Prop where
  start : d'.range.start = d.range.start
  line : d'.range.stop.line = d.range.stop.line
  character : d'.range.stop.character =
    if d.range.start.line = 0 then d.range.stop.character + 1 else d.range.stop.character
  severity : d'.severity = d.severity
  code : d'.code = d.code
  message : d'.message = d.message

/-- Where lines and columns fit into words, the numbers are those of the text. -/
theorem widened_diagnosticOf {text : List Char} {f : Finding} (hline : f.line < wordLimit)
    (hwidth : ∀ line, Text.LineAt text 0 line → Text.units line + 1 < wordLimit) :
    (diagnosticOf text f).Widened (diagnosticOf (bom :: text) f) := by
  have hstart : (diagnosticOf text f).range.start.line = f.line := Nat.mod_eq_of_lt hline
  rw [diagnosticOf_bom]
  by_cases hzero : f.line = 0
  · have hstop : (diagnosticOf text f).range.stop.character + 1 < wordLimit := by
      simp only [diagnosticOf, lineRange, Range.onLine, hzero]
      cases hfirst : Text.line? text 0 with
      | none => decide
      | some line =>
        have hfits := hwidth line (Text.line?_eq_some_iff.mp hfirst)
        rw [Option.map_some, Option.getD_some, Nat.mod_eq_of_lt (by omega)]
        exact hfits
    rw [if_pos hzero]
    refine ⟨rfl, rfl, ?_, rfl, rfl, rfl⟩
    rw [if_pos (hstart.trans hzero)]
    exact Nat.mod_eq_of_lt hstop
  · rw [if_neg hzero]
    refine ⟨rfl, rfl, ?_, rfl, rfl, rfl⟩
    rw [hstart, if_neg hzero]

/-- **A mark is transparent to validation.** The findings of a text are the same with a mark in front
of it, and so are their diagnostics, except that those on the first line end one column further to the
right. Lines and columns are words, and so is that sum; as long as they are not exhausted, the end is
larger by one. -/
theorem mark_transparent_to_diagnostics {text : List Char} (h : text.head? ≠ some bom) :
    validateText (bom :: text) = validateText text ∧
    diagnose (bom :: text) = (validateText text).map (fun f =>
      if f.line = 0 then (diagnosticOf text f).widen else diagnosticOf text f) ∧
    ((∀ f ∈ validateText text, f.line < wordLimit) →
      (∀ line, Text.LineAt text 0 line → Text.units line + 1 < wordLimit) →
      List.Forall₂ Diagnostic.Widened (diagnose text) (diagnose (bom :: text))) := by
  have hfindings := validateText_bom h
  refine ⟨hfindings, ?_, ?_⟩
  · rw [diagnose, hfindings, diagnosticsOf]
    exact List.map_congr_left fun f _ => diagnosticOf_bom text f
  · intro hlines hwidth
    rw [diagnose, diagnose, hfindings, diagnosticsOf, diagnosticsOf, List.forall₂_map_left_iff,
      List.forall₂_map_right_iff, List.forall₂_same]
    intro f hf
    exact widened_diagnosticOf (hlines f hf) hwidth

/-- Errors on the first two lines, the first one with a character of two units. -/
def markableText : List Char := "name: [𝄞]\nversion: 1\n".toList

theorem mark_transparent_to_diagnostics_markableText :
    markableText.head? ≠ some bom ∧
    (∀ f ∈ validateText markableText, f.line < wordLimit) ∧
    (∀ line, Text.LineAt markableText 0 line → Text.units line + 1 < wordLimit) ∧
    List.Forall₂ Diagnostic.Widened (diagnose markableText) (diagnose (bom :: markableText)) ∧
    (diagnose markableText).map (·.range.stop) = [⟨0, 10⟩, ⟨1, 10⟩] ∧
    (diagnose (bom :: markableText)).map (·.range.stop) = [⟨0, 11⟩, ⟨1, 10⟩] := by
  have hhead : markableText.head? ≠ some bom := by decide
  have hfindings : validateText markableText =
      [⟨.error, .typeMismatch, 0, "\"name\" must be a string"⟩,
        ⟨.error, .typeMismatch, 1, "\"version\" must be a string"⟩] := by decide +kernel
  have hlines : ∀ f ∈ validateText markableText, f.line < wordLimit := by
    rw [hfindings]
    decide
  have hwidth : ∀ line, Text.LineAt markableText 0 line → Text.units line + 1 < wordLimit := by
    intro line hline
    have hfirst : Text.line? markableText 0 = some "name: [𝄞]".toList := by decide
    rw [hline.line?_eq] at hfirst
    cases hfirst
    decide
  obtain ⟨-, hmarked, hwidened⟩ := mark_transparent_to_diagnostics hhead
  refine ⟨hhead, hlines, hwidth, hwidened hlines hwidth, ?_, ?_⟩
  · rw [diagnose, hfindings]
    decide
  · rw [hmarked, hfindings]
    decide

/-! ## Hovers and completion -/

theorem isWhite_bom : Text.isWhite bom = false := by decide

theorem isIdentChar_bom : isIdentChar bom = false := by decide

theorem hoverForLine_bom (line : List Char) (n : Nat) : hoverForLine (bom :: line) n = none := by
  have hdeclaration : declaration? isIdentChar (bom :: line) = none := by
    simp [declaration?, isWhite_bom, isIdentChar_bom]
  simp [hoverForLine, identifier?, hdeclaration]

theorem indentDepth_bom (line : List Char) : indentDepth (bom :: line) = 0 := by
  simp [indentDepth, isWhite_bom]

/-- The hover one column further to the right. Columns are words. -/
def Hover.shift (h : Hover) : Hover :=
  ⟨h.contents, ⟨⟨h.range.start.line, (h.range.start.character + 1) % wordLimit⟩,
    ⟨h.range.stop.line, (h.range.stop.character + 1) % wordLimit⟩⟩⟩

namespace Documents

variable (d : Documents) (uri : Uri) (version : Int) (text : List Char)

/-- The answers on a line are those that there would be without a mark in front of the text, a column
further to the right on the first line. -/
structure SeesThroughMark (n : Nat) : Prop where
  hover : (d.update uri version (bom :: text)).hover uri n =
    ((d.update uri version text).hover uri n).map fun h => if n = 0 then h.shift else h
  completion : (d.update uri version (bom :: text)).completion uri n =
    (d.update uri version text).completion uri n

theorem get?_update : (d.update uri version text).get? uri = some ⟨version, text⟩ := by
  simp [get?, update, Store.get?_put]

theorem hover_update (n : Nat) :
    (d.update uri version text).hover uri n =
      (Text.line? text n).bind fun line => hoverForLine line n := by
  simp only [Documents.hover, get?_update, Document.line?]
  cases Text.line? text n with
  | none => rfl
  | some line => rfl

theorem completion_update (n : Nat) :
    (d.update uri version text).completion uri n =
      some (completionItems ((Text.line? text n).getD [])) := by
  simp only [Documents.completion, get?_update, Document.line?]

theorem hover_bom_zero : (d.update uri version (bom :: text)).hover uri 0 = none := by
  rw [hover_update, Text.line?_bom_zero, Option.bind_some, hoverForLine_bom]

theorem completion_bom_zero :
    (d.update uri version (bom :: text)).completion uri 0 =
      some (Schema.topLevel.map .ofField) := by
  rw [completion_update, Text.line?_bom_zero, Option.getD_some, Option.some_inj,
    completionItems_eq_topLevel_iff, indentDepth_bom]
  decide

theorem seesThroughMark_succ (n : Nat) : d.SeesThroughMark uri version text (n + 1) := by
  constructor
  · simp only [hover_update, Text.line?_bom_succ, Nat.succ_ne_zero, if_false, Option.map_id']
  · rw [completion_update, completion_update, Text.line?_bom_succ]

theorem seesThroughMark_zero_iff :
    d.SeesThroughMark uri version text 0 ↔
      ∀ line, Text.LineAt text 0 line →
        (¬ ∃ k : KeyLine, k.text = line) ∧ indentDepth line < nestedIndent := by
  have hsame : d.SeesThroughMark uri version text 0 ↔
      (d.update uri version text).hover uri 0 = none ∧
        (d.update uri version text).completion uri 0 = some (Schema.topLevel.map .ofField) := by
    constructor
    · rintro ⟨hhover, hcompletion⟩
      rw [hover_bom_zero, eq_comm, Option.map_eq_none_iff] at hhover
      rw [completion_bom_zero] at hcompletion
      exact ⟨hhover, hcompletion.symm⟩
    · rintro ⟨hhover, hcompletion⟩
      constructor
      · rw [hover_bom_zero, hhover, Option.map_none]
      · rw [completion_bom_zero, hcompletion]
  rw [hsame, hover_update, completion_update, Option.some_inj, completionItems_eq_topLevel_iff]
  simp only [← Text.line?_eq_some_iff]
  cases Text.line? text 0 with
  | none =>
    have hdepth : indentDepth [] < nestedIndent := by decide
    simp [hdepth]
  | some line =>
    have hhover : hoverForLine line 0 = none ↔ ¬ ∃ k : KeyLine, k.text = line := by
      rw [← isSome_hoverForLine_iff (n := 0), Bool.not_eq_true, Option.isSome_eq_false_iff,
        Option.isNone_iff_eq_none]
    simp [hhover]

/-- A mark hides the first line. No hover is shown there, and completion offers what it offers at the
margin. So the mark is seen through on all other lines, and on the first one exactly if it has no key
to show and is indented by less than nested keys are. -/
theorem mark_hides_first_line :
    (d.update uri version (bom :: text)).hover uri 0 = none ∧
    (d.update uri version (bom :: text)).completion uri 0 =
      some (Schema.topLevel.map .ofField) ∧
    ∀ n, d.SeesThroughMark uri version text n ↔
      (n = 0 → ∀ line, Text.LineAt text 0 line →
        (¬ ∃ k : KeyLine, k.text = line) ∧ indentDepth line < nestedIndent) := by
  refine ⟨hover_bom_zero d uri version text, completion_bom_zero d uri version text, ?_⟩
  intro n
  cases n with
  | zero => simp only [seesThroughMark_zero_iff, forall_const]
  | succ n =>
    simp only [Nat.succ_ne_zero, false_imp_iff, iff_true]
    exact seesThroughMark_succ d uri version text n

/-- The first line of a document has a key to show, and it is indented. -/
def indentedName : List Char := "  name: app".toList

/-- On such a line both answers are other ones behind a mark. -/
theorem mark_not_seen_through :
    indentedName.head? ≠ some bom ∧
    ¬ (start 0).SeesThroughMark "file:///app.yaml" 1 indentedName 0 ∧
    (((start 0).update "file:///app.yaml" 1 indentedName).hover "file:///app.yaml" 0).isSome ∧
    ((start 0).update "file:///app.yaml" 1 (bom :: indentedName)).hover "file:///app.yaml" 0 =
      none ∧
    ((start 0).update "file:///app.yaml" 1 indentedName).completion "file:///app.yaml" 0 =
      some ((Schema.nested "settings").map .ofField) ∧
    ((start 0).update "file:///app.yaml" 1 (bom :: indentedName)).completion "file:///app.yaml" 0 =
      some (Schema.topLevel.map .ofField) := by
  have hline : Text.LineAt indentedName 0 indentedName := .last (by decide) (by decide)
  have hdepth : ¬ indentDepth indentedName < nestedIndent := by decide
  refine ⟨by decide, ?_, by decide, hover_bom_zero _ _ _ _, ?_, completion_bom_zero _ _ _ _⟩
  · intro hseen
    exact hdepth ((seesThroughMark_zero_iff _ _ _ _).mp hseen indentedName hline).2
  · rw [completion_update, hline.line?_eq, Option.getD_some, completionItems, if_pos (by decide)]

end Documents

end Editor

end AppConfig
