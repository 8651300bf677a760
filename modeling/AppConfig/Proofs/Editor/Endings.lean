import AppConfig.Editor.Diagnostic
import AppConfig.Editor.Documents
import AppConfig.Proofs.Text.Lines

/-!
# AppConfig.Proofs.Editor.Endings

How its lines end makes no difference to a text. A carriage return in front of every line feed leaves
the lines as they are (`Text.lines_withReturns`), and whatever is looked up, measured or shown in a
text is taken from its lines: one `_of_lines` lemma for each of the functions that do so.
-/

namespace AppConfig

open Editor (Document Documents Uri diagnosticOf lineRange)

/-! ## The lines -/

namespace Text

/-- The text with a carriage return in front of each line feed. -/
def withReturns (text : List Char) : List Char :=
  text.flatMap fun c => if c = '\n' then ['\r', '\n'] else [c]

theorem withReturns_lineFeed (cs : List Char) :
    withReturns ('\n' :: cs) = '\r' :: '\n' :: withReturns cs := rfl

theorem withReturns_cons {c : Char} (h : c ≠ '\n') (cs : List Char) :
    withReturns (c :: cs) = c :: withReturns cs := by
  rw [withReturns, List.flatMap_cons, if_neg h, List.singleton_append, withReturns]

theorem lines_withReturns {text : List Char} (h : '\r' ∉ text) :
    lines (withReturns text) = lines text := by
  induction text with
  | nil => rfl
  | cons c cs ih =>
    rw [List.mem_cons, not_or] at h
    -- a return of the text itself would be taken for part of the ending behind it
    have hreturn : c ≠ '\r' := Ne.symm h.1
    by_cases hc : c = '\n'
    · subst hc
      rw [withReturns_lineFeed, lines_lineFeed, ← ih h.2]
      exact lines_append_returnFeed List.not_mem_nil _
    · rw [withReturns_cons hc, lines_cons hc fun heq => absurd heq hreturn,
        lines_cons hc fun heq => absurd heq hreturn, ih h.2]

end Text

/-! ## What is made of the lines -/

section

variable {text text' : List Char} (h : Text.lines text = Text.lines text')

include h

theorem findFieldLine_of_lines (field : List Char) :
    findFieldLine text field = findFieldLine text' field := by
  rw [findFieldLine, findFieldLine, h]

/-- The validator looks into the text for the lines of keys only. -/
theorem validate_of_lines (document : Mapping) : validate document text = validate document text' := by
  have hlocate : locateField text = locateField text' := by
    funext field
    rw [locateField, locateField, findFieldLine_of_lines h]
  simp only [validate, validateSettings, mistyped, hlocate]

theorem line?_of_lines (n : Nat) : Text.line? text n = Text.line? text' n := by
  rw [Text.line?, Text.line?, h]

theorem diagnosticOf_of_lines (f : Finding) : diagnosticOf text f = diagnosticOf text' f := by
  rw [diagnosticOf, diagnosticOf, lineRange, lineRange, line?_of_lines h]

end

namespace Editor.Documents

variable {d d' : Documents} {uri uri' : Uri} {doc doc' : Document}

theorem hover_of_lines (hopen : d.get? uri = some doc) (hopen' : d'.get? uri' = some doc')
    (h : Text.lines doc.content = Text.lines doc'.content) (n : Nat) :
    d.hover uri n = d'.hover uri' n := by
  simp only [hover, hopen, hopen', Document.line?, line?_of_lines h]

theorem completion_of_lines (hopen : d.get? uri = some doc) (hopen' : d'.get? uri' = some doc')
    (h : Text.lines doc.content = Text.lines doc'.content) (n : Nat) :
    d.completion uri n = d'.completion uri' n := by
  simp only [completion, hopen, hopen', Document.line?, line?_of_lines h]

end Editor.Documents

/-- **Line endings agree.** A text without carriage returns, and the same text with one in front of
each line feed: keys are found on the same lines, mappings have the same findings and findings the
same diagnostics, and documents with these texts answer alike on every line. -/
theorem line_endings_agree {text : List Char} (h : '\r' ∉ text) :
    (∀ field, findFieldLine (Text.withReturns text) field = findFieldLine text field) ∧
    (∀ document, validate document (Text.withReturns text) = validate document text) ∧
    (∀ f, diagnosticOf (Text.withReturns text) f = diagnosticOf text f) ∧
    ∀ (d d' : Documents) (uri uri' : Uri) (doc doc' : Document),
      d.get? uri = some doc → doc.content = text →
      d'.get? uri' = some doc' → doc'.content = Text.withReturns text →
      ∀ n, d'.hover uri' n = d.hover uri n ∧ d'.completion uri' n = d.completion uri n := by
  have hlines := Text.lines_withReturns h
  refine ⟨findFieldLine_of_lines hlines, validate_of_lines hlines, diagnosticOf_of_lines hlines, ?_⟩
  rintro d d' uri uri' doc doc' hopen rfl hopen' hcontent n
  rw [← hcontent] at hlines
  exact ⟨Documents.hover_of_lines hopen' hopen hlines n,
    Documents.completion_of_lines hopen' hopen hlines n⟩

/-- An empty line, white space behind a key, and a last line that no line feed ends. -/
def feedText : List Char := "\nname \t: 5\n\nsettings:\n  retries: -1".toList

def feedDocuments (content : List Char) : Documents :=
  (Documents.start 0).update "file:///app.yaml" 1 content

theorem line_endings_agree_feedText :
    '\r' ∉ feedText ∧ '\r' ∈ Text.withReturns feedText ∧
    findFieldLine (Text.withReturns feedText) "name".toList = some 1 ∧
    ∃ h, (feedDocuments (Text.withReturns feedText)).hover "file:///app.yaml" 4 = some h ∧
      h.range = ⟨⟨4, 2⟩, ⟨4, 9⟩⟩ := by
  have hfree : '\r' ∉ feedText := by decide
  have hopen (content : List Char) :
      (feedDocuments content).get? "file:///app.yaml" = some ⟨1, content⟩ := rfl
  obtain ⟨hfind, -, -, hanswers⟩ := line_endings_agree hfree
  obtain ⟨hhover, -⟩ :=
    hanswers _ _ _ _ _ _ (hopen feedText) rfl (hopen (Text.withReturns feedText)) rfl 4
  have hname : findFieldLine feedText "name".toList = some 1 := by decide
  refine ⟨hfree, by decide, (hfind _).trans hname, ?_⟩
  rw [hhover]
  exact ⟨_, rfl, by decide⟩

end AppConfig
