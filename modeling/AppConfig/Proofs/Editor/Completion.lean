import AppConfig.Editor.Completion
import AppConfig.Proofs.Editor.KeyLine
import AppConfig.Proofs.Text.Lines

/-!
# AppConfig.Proofs.Editor.Completion

Which items are offered on a line, and what becomes of a line when one of them is inserted. The text
of every item is its key and a colon, with more behind it (`Schema.insertText_eq`), so behind white
space it is a line that declares the key: the hover and the locator know it again.
-/

namespace AppConfig

namespace Schema

/-- Behind the key of an object the cursor goes on to a line of its own. -/
theorem insertText_eq : ∀ f ∈ fields,
    f.insertText = f.key ++ ":" ++ (if f.type = .object then "\n  " else " ") := by
  decide

end Schema

namespace Editor

open Text (isBlank)

/-! ## The items offered -/

theorem nested_ne_topLevel :
    (Schema.nested "settings").map CompletionItem.ofField ≠ Schema.topLevel.map .ofField := by
  decide

theorem completionItems_eq_topLevel_iff {line : List Char} :
    completionItems line = Schema.topLevel.map .ofField ↔ indentDepth line < nestedIndent := by
  rw [completionItems]
  by_cases hdepth : nestedIndent ≤ indentDepth line
  · simp only [if_pos hdepth, nested_ne_topLevel, false_iff]
    omega
  · simp only [if_neg hdepth, true_iff]
    omega

theorem completionItems_eq_nested_iff {line : List Char} :
    completionItems line = (Schema.nested "settings").map .ofField ↔
      nestedIndent ≤ indentDepth line := by
  rw [completionItems]
  by_cases hdepth : nestedIndent ≤ indentDepth line
  · simp only [if_pos hdepth, true_iff]
    exact hdepth
  · simp only [if_neg hdepth, nested_ne_topLevel.symm, false_iff]
    exact hdepth

theorem indentDepth_of_isBlank {line : List Char} (h : isBlank line = true) :
    indentDepth line = line.length := by
  have hwhite : (line ++ []).takeWhile Text.isWhite = line :=
    takeWhile_run (List.all_eq_true.mp h) (by simp)
  rw [List.append_nil] at hwhite
  rw [indentDepth, hwhite]

theorem exists_field_of_mem_completionItems {line : List Char} {item : CompletionItem}
    (h : item ∈ completionItems line) : ∃ f ∈ Schema.fields, item = .ofField f := by
  obtain ⟨f, hf, rfl⟩ := List.mem_map.mp h
  split at hf
  · exact ⟨f, List.mem_of_mem_filter hf, rfl⟩
  · exact ⟨f, List.mem_of_mem_filter hf, rfl⟩

/-! ## Inserting an item -/

/-- The first line of a field's text behind white space. -/
def insertedLine {indent : List Char} {field : Field} (hindent : isBlank indent = true)
    (hfield : field ∈ Schema.fields) : KeyLine where
  indent := indent
  field := field
  gap := []
  rest := if field.type = .object then [] else [' ']
  known := hfield
  indented := hindent
  spaced := rfl

/-- The lines of a field's text below the first one. -/
def insertedBelow (field : Field) : List (List Char) :=
  if field.type = .object then ["  ".toList] else []

section Inserted

variable {indent : List Char} {field : Field} (hindent : isBlank indent = true)
  (hfield : field ∈ Schema.fields)

theorem append_insertText :
    indent ++ field.insertText.toList =
      (insertedLine hindent hfield).text ++
        if field.type = .object then '\n' :: "  ".toList else [] := by
  rw [Schema.insertText_eq field hfield]
  by_cases htype : field.type = .object
  · simp [insertedLine, KeyLine.text, KeyLine.key, htype]
  · simp [insertedLine, KeyLine.text, KeyLine.key, htype]

theorem lineFeed_not_mem_insertedLine (hfeed : '\n' ∉ indent) :
    '\n' ∉ (insertedLine hindent hfield).text := by
  have hkey : ∀ f ∈ Schema.fields, '\n' ∉ f.key.toList := by decide
  simp only [insertedLine, KeyLine.text, KeyLine.key, List.nil_append, List.mem_append,
    List.mem_cons, not_or]
  refine ⟨hfeed, hkey field hfield, by decide, ?_⟩
  split
  · decide
  · decide

theorem lines_insertedLine (hfeed : '\n' ∉ indent) :
    Text.lines (insertedLine hindent hfield).text = [(insertedLine hindent hfield).text] :=
  Text.lines_of_not_mem (lineFeed_not_mem_insertedLine hindent hfield hfeed)
    (by simp [KeyLine.text])

theorem lines_inserted (hfeed : '\n' ∉ indent) :
    Text.lines (indent ++ field.insertText.toList) =
      (insertedLine hindent hfield).text :: insertedBelow field := by
  rw [append_insertText hindent hfield, insertedBelow]
  split
  · rename_i htype
    have hlast : (insertedLine hindent hfield).text.getLast? ≠ some '\r' := by
      simp [insertedLine, KeyLine.text, htype, List.getLast?_append]
    have hbelow : Text.lines "  ".toList = ["  ".toList] := by decide
    rw [Text.lines_append_lineFeed (lineFeed_not_mem_insertedLine hindent hfield hfeed) hlast,
      hbelow]
  · rw [List.append_nil, lines_insertedLine hindent hfield hfeed]

end Inserted

theorem insertedBelow_settings : ∀ f ∈ Schema.fields, f.key = "settings" →
    insertedBelow f = ["  ".toList] := by
  decide

/-- A key that the first line declares is found there. -/
theorem KeyLine.findFieldLine_eq_zero (k : KeyLine) {text : List Char} {below : List (List Char)}
    (h : Text.lines text = k.text :: below) : findFieldLine text k.key = some 0 := by
  have hline : Text.line? text 0 = some k.text := by rw [Text.line?, h, List.getElem?_cons_zero]
  rw [findFieldLine_eq_some_iff]
  exact ⟨⟨k.text, k.indent, hline, k.declares⟩, fun m hm => absurd hm (Nat.not_lt_zero m)⟩

/-- **Inserted items are known again.** On a line of white space the items nested under `settings` are
offered if it has two characters or more, and those of the root otherwise. Whichever of them is
inserted, the first line has the hover of the field that the item stands for, over its key, which
begins right behind the white space (columns are words), and the key is found there. Behind the key
of `settings` one more line follows, and the nested items are offered on it. -/
theorem inserted_items_recognised {indent : List Char} (hblank : isBlank indent = true)
    (hfeed : '\n' ∉ indent) :
    (completionItems indent = (Schema.nested "settings").map .ofField ↔ 2 ≤ indent.length) ∧
    (completionItems indent = Schema.topLevel.map .ofField ↔ indent.length < 2) ∧
    ∀ item ∈ completionItems indent, ∃ field line below,
      Schema.lookup item.label = some field ∧ field.detail = item.detail ∧
      field.description = item.documentation ∧
      Text.lines (indent ++ item.insertText.toList) = line :: below ∧
      (∀ n, ∃ h, hoverForLine line n = some h ∧ h.contents = describe field ∧
        h.range = .onLine n (Text.units indent)
          (Text.units indent + Text.units item.label.toList) ∧
        (n < wordLimit → Text.units indent < wordLimit →
          h.range.start = ⟨n, Text.units indent⟩)) ∧
      findFieldLine line item.label.toList = some 0 ∧
      findFieldLine (indent ++ item.insertText.toList) item.label.toList = some 0 ∧
      (item.label = "settings" → ∃ last, below = [last] ∧
        completionItems last = (Schema.nested "settings").map .ofField) := by
  refine ⟨?_, ?_, ?_⟩
  · rw [completionItems_eq_nested_iff, indentDepth_of_isBlank hblank]
    rfl
  · rw [completionItems_eq_topLevel_iff, indentDepth_of_isBlank hblank]
    rfl
  · intro item hitem
    obtain ⟨field, hfield, rfl⟩ := exists_field_of_mem_completionItems hitem
    have hlines := lines_inserted hblank hfield hfeed
    have hfirst := lines_insertedLine hblank hfield hfeed
    refine ⟨field, _, _, Schema.lookup_key field hfield, rfl, rfl, hlines, fun n => ?_,
      (insertedLine hblank hfield).findFieldLine_eq_zero hfirst,
      (insertedLine hblank hfield).findFieldLine_eq_zero hlines, fun hsettings => ?_⟩
    · refine ⟨_, (insertedLine hblank hfield).hoverForLine_text n, rfl, rfl, fun hn hwidth => ?_⟩
      simp only [insertedLine, Range.onLine, Nat.mod_eq_of_lt hn, Nat.mod_eq_of_lt hwidth]
    · refine ⟨"  ".toList, insertedBelow_settings field hfield hsettings, ?_⟩
      rw [completionItems_eq_nested_iff]
      decide

/-- A carriage return alone is white space of one character, and ends no line. -/
theorem inserted_items_recognised_return :
    isBlank ['\r'] = true ∧ '\n' ∉ ['\r'] ∧
    ∃ item ∈ completionItems ['\r'], item.label = "settings" ∧
      findFieldLine ('\r' :: item.insertText.toList) "settings".toList = some 0 ∧
      ∃ line last, Text.lines ('\r' :: item.insertText.toList) = [line, last] ∧
        (∃ h, hoverForLine line 0 = some h ∧ h.range.start = ⟨0, 1⟩) ∧
        completionItems last = (Schema.nested "settings").map .ofField := by
  have hblank : isBlank ['\r'] = true := rfl
  have hfeed : '\n' ∉ ['\r'] := by decide
  obtain ⟨-, htop, hinserted⟩ := inserted_items_recognised hblank hfeed
  obtain ⟨item, hitem, hlabel⟩ :
      ∃ item ∈ completionItems ['\r'], item.label = "settings" := by
    rw [htop.mpr (by decide)]
    decide
  obtain ⟨field, line, below, -, -, -, hlines, hhover, -, hfind, hsettings⟩ := hinserted item hitem
  obtain ⟨last, rfl, hoffered⟩ := hsettings hlabel
  obtain ⟨h, hh, -, -, hstart⟩ := hhover 0
  rw [hlabel] at hfind
  exact ⟨hblank, hfeed, item, hitem, hlabel, hfind, line, last, hlines,
    ⟨h, hh, hstart (by decide) (by decide)⟩, hoffered⟩

end Editor

end AppConfig
