import AppConfig.Proofs.Editor.Hover
import AppConfig.Proofs.Text.Utf16

/-!
# AppConfig.Proofs.Editor.KeyLine

The lines that a hover answers for, taken apart (`KeyLine`). A line can be taken apart in one way
only (`KeyLine.text_injective`), and the range of its hover cuts the key out of its UTF-16 units.
-/

namespace AppConfig.Editor

/-- The parts of a line that declares the key of a field. -/
structure KeyLine where
  indent : List Char
  field : Field
  gap : List Char
  rest : List Char
  known : field ∈ Schema.fields
  indented : Text.isBlank indent = true
  spaced : Text.isBlank gap = true

namespace KeyLine

def key (k : KeyLine) : List Char := k.field.key.toList

def text (k : KeyLine) : List Char := k.indent ++ (k.key ++ (k.gap ++ ':' :: k.rest))

theorem declares (k : KeyLine) : Declares k.text k.indent k.key := by
  have hkey := isIdentifier_key k.field k.known
  rw [isIdentifier, Bool.and_eq_true, List.all_eq_true] at hkey
  refine ⟨⟨k.gap, k.rest, k.spaced, rfl⟩, k.indented, ?_, ?_⟩
  · intro hnil
    rw [show k.field.key.toList = [] from hnil] at hkey
    exact absurd hkey.2 Bool.false_ne_true
  · intro c hc
    exact isKeyChar_of_isIdentChar c (hkey.1 c hc)

theorem exists_of_declares {line indent : List Char} {field : Field} (hfield : field ∈ Schema.fields)
    (h : Declares line indent field.key.toList) :
    ∃ k : KeyLine, k.text = line ∧ k.field = field := by
  obtain ⟨gap, rest, hgap, rfl⟩ := h.written
  exact ⟨⟨indent, field, gap, rest, hfield, h.blank, hgap⟩, rfl, rfl⟩

theorem field_eq_of_key_eq {k k' : KeyLine} (h : k.key = k'.key) : k.field = k'.field := by
  have hlookup := Schema.lookup_key k.field k.known
  rw [String.toList_injective h, Schema.lookup_key k'.field k'.known] at hlookup
  exact (Option.some.inj hlookup).symm

theorem text_injective {k k' : KeyLine} (h : k.text = k'.text) : k = k' := by
  have hdeclares := k'.declares
  rw [← h] at hdeclares
  obtain ⟨hindent, hkey⟩ := k.declares.unique hdeclares
  -- the first colon behind the key is behind white space
  have htail : k.gap ++ ':' :: k.rest = k'.gap ++ ':' :: k'.rest := by
    rw [text, text, hindent, hkey] at h
    exact List.append_cancel_left (List.append_cancel_left h)
  have hcut := Text.cut?_append (Text.colon_not_mem_of_isBlank k.spaced) k.rest
  rw [htail, Text.cut?_append (Text.colon_not_mem_of_isBlank k'.spaced)] at hcut
  have hfield := field_eq_of_key_eq hkey
  cases k
  cases k'
  cases hcut
  cases hindent
  cases hfield
  rfl

/-- The hover of a line stands over its key. -/
theorem hoverForLine_text (k : KeyLine) (n : Nat) :
    hoverForLine k.text n =
      some ⟨describe k.field, .onLine n (Text.units k.indent)
        (Text.units k.indent + Text.units k.key)⟩ :=
  hoverForLine_eq_some_iff.mpr ⟨k.field, k.known, k.indent, k.declares, rfl⟩

end KeyLine

theorem isSome_hoverForLine_iff {line : List Char} {n : Nat} :
    (hoverForLine line n).isSome = true ↔ ∃ k : KeyLine, k.text = line := by
  rw [Option.isSome_iff_exists]
  constructor
  · rintro ⟨h, hhover⟩
    obtain ⟨field, hfield, indent, hdeclares, -⟩ := hoverForLine_eq_some_iff.mp hhover
    obtain ⟨k, htext, -⟩ := KeyLine.exists_of_declares hfield hdeclares
    exact ⟨k, htext⟩
  · rintro ⟨k, rfl⟩
    exact ⟨_, k.hoverForLine_text n⟩

/-- **Hovers cover keys.** A line has a hover exactly if it is white space, the key of a field, white
space, a colon and anything. It is so in one way only; the hover tells the path, the type, the
requirement and the description of that field, which tell it from all others; it stands on the line,
and its columns cut the key and nothing else out of the UTF-16 units of the line. -/
theorem hovers_cover_keys {line : List Char} {n : Nat} (hwidth : Text.units line < wordLimit)
    (hn : n < wordLimit) :
    ((hoverForLine line n).isSome = true ↔ ∃ k : KeyLine, k.text = line) ∧
    (∀ k k' : KeyLine, k.text = line → k'.text = line → k = k') ∧
    ∀ k : KeyLine, k.text = line → ∃ h, hoverForLine line n = some h ∧
      h.contents = "**" ++ k.field.path ++ "** (`" ++ k.field.type.name ++ "`, " ++
        k.field.requirement ++ ")\n\n" ++ k.field.description ∧
      (∀ field ∈ Schema.fields, h.contents = describe field → field = k.field) ∧
      h.range.start.line = n ∧ h.range.stop.line = n ∧
      ∀ cs, (Text.utf16 line).extract h.range.start.character h.range.stop.character =
        Text.utf16 cs ↔ cs = k.key := by
  refine ⟨isSome_hoverForLine_iff, ?_, ?_⟩
  · intro k k' hk hk'
    exact KeyLine.text_injective (hk.trans hk'.symm)
  · rintro k rfl
    have hunits : Text.units k.indent + Text.units k.key ≤ Text.units k.text := by
      rw [KeyLine.text, Text.units_append, Text.units_append]
      omega
    refine ⟨_, k.hoverForLine_text n, rfl, ?_, Nat.mod_eq_of_lt hn, Nat.mod_eq_of_lt hn, ?_⟩
    · intro field hfield hcontents
      exact describe_injective field hfield k.field k.known hcontents.symm
    · intro cs
      have hstart : Text.units k.indent % wordLimit = Text.units k.indent :=
        Nat.mod_eq_of_lt (by omega)
      have hstop : (Text.units k.indent + Text.units k.key) % wordLimit =
          Text.units k.indent + Text.units k.key := Nat.mod_eq_of_lt (by omega)
      simp only [Range.onLine, hstart, hstop]
      rw [KeyLine.text, Text.extract_utf16]
      constructor
      · intro hunits
        exact (Text.utf16_injective hunits).symm
      · rintro rfl
        rfl

/-- White space of three kinds around the key, and a second colon. -/
theorem hovers_cover_keys_typographic :
    Text.units "\u3000\tretries\u00A0: 𝄞:1".toList < wordLimit ∧ 7 < wordLimit ∧
    ∃ h, hoverForLine "\u3000\tretries\u00A0: 𝄞:1".toList 7 = some h ∧ h.range.start.line = 7 ∧
      (Text.utf16 "\u3000\tretries\u00A0: 𝄞:1".toList).extract h.range.start.character
        h.range.stop.character = Text.utf16 "retries".toList := by
  obtain ⟨field, hfield, hkey⟩ : ∃ field ∈ Schema.fields, field.key = "retries" := by decide
  let k : KeyLine :=
    ⟨"\u3000\t".toList, field, "\u00A0".toList, " 𝄞:1".toList, hfield, by decide, by decide⟩
  have hchars : k.key = "retries".toList := congrArg String.toList hkey
  have htext : k.text = "\u3000\tretries\u00A0: 𝄞:1".toList := by
    rw [KeyLine.text, hchars]
    rfl
  have hwidth : Text.units "\u3000\tretries\u00A0: 𝄞:1".toList < wordLimit := by decide
  have hn : 7 < wordLimit := by decide
  obtain ⟨h, hhover, -, -, hline, -, hslice⟩ := (hovers_cover_keys hwidth hn).2.2 k htext
  exact ⟨hwidth, hn, h, hhover, hline, (hslice _).mpr hchars.symm⟩

end AppConfig.Editor
