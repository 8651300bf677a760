import AppConfig.Proofs.Locate.Declaration
import AppConfig.Proofs.Text.Lines

/-!
# AppConfig.Proofs.Locate.Pattern

A field is looked for by the key of each line, whatever that key is; the pattern that this stands for
has the name of the field in it. The two find the same line: a name is a run of characters that are
neither white space nor colons, so where the pattern holds the name is the whole key, and a name
that is no such run is no key of any line.
-/

namespace AppConfig

open Text (isWhite isBlank LineAt)

/-- A name that can be a key: not empty, and with neither white space nor a colon in it. -/
structure IsName (field : List Char) : Prop where
  nonempty : field ≠ []
  chars : ∀ c ∈ field, isWhite c = false ∧ c ≠ ':'

/-- A line of the form: white space, the name, white space, a colon, anything. -/
def Matches (field line : List Char) : Prop :=
  ∃ indent gap rest, isBlank indent = true ∧ isBlank gap = true ∧
    line = indent ++ (field ++ (gap ++ ':' :: rest))

/-- The line with a number has the form of the pattern. -/
def MatchesAt (text : List Char) (n : Nat) (field : List Char) : Prop :=
  ∃ line, LineAt text n line ∧ Matches field line

theorem Declares.isName {line indent key : List Char} (h : Declares line indent key) :
    IsName key :=
  ⟨h.nonempty, fun c hc => isKeyChar_iff.mp (h.chars c hc)⟩

theorem exists_declares_iff {field line : List Char} (h : IsName field) :
    (∃ indent, Declares line indent field) ↔ Matches field line := by
  constructor
  · rintro ⟨indent, hdeclares⟩
    obtain ⟨gap, rest, hgap, hline⟩ := hdeclares.written
    exact ⟨indent, gap, rest, hdeclares.blank, hgap, hline⟩
  · rintro ⟨indent, gap, rest, hindent, hgap, hline⟩
    refine ⟨indent, ⟨gap, rest, hgap, hline⟩, hindent, h.nonempty, fun c hc => ?_⟩
    exact isKeyChar_iff.mpr (h.chars c hc)

theorem declaresAt_iff_matchesAt {text field : List Char} {n : Nat} (h : IsName field) :
    DeclaresAt text n field ↔ MatchesAt text n field := by
  simp only [DeclaresAt, MatchesAt, ← Text.line?_eq_some_iff, exists_and_left,
    exists_declares_iff h]

/-- **The pattern of a field.** A name is found on the first line that has the form of its pattern,
and not found exactly if no line has it; what is no name is never found. -/
theorem findFieldLine_implements_pattern (text field : List Char) :
    (IsName field →
      (∀ n, findFieldLine text field = some n ↔
        MatchesAt text n field ∧ ∀ m < n, ¬ MatchesAt text m field) ∧
      (findFieldLine text field = none ↔ ∀ n, ¬ MatchesAt text n field)) ∧
    (¬ IsName field → findFieldLine text field = none) := by
  constructor
  · intro hname
    refine ⟨fun n => ?_, ?_⟩
    · simp only [findFieldLine_eq_some_iff, declaresAt_iff_matchesAt hname]
    · simp only [findFieldLine_eq_none_iff, declaresAt_iff_matchesAt hname]
  · intro hname
    rw [findFieldLine_eq_none_iff]
    rintro n ⟨line, indent, -, hdeclares⟩
    exact hname hdeclares.isName

/-- A longer key, a key behind a dash and one in the middle of a line come before the line that has
the form: behind a carriage return, and with one in front of the colon. -/
theorem findFieldLine_implements_pattern_lookalikes :
    IsName "a.b".toList ∧
    MatchesAt "a.bc: 1\r\n- a.b: 1\r\nx a.b: 1\n\r a.b\r : 2".toList 3 "a.b".toList ∧
    ∀ m < 3, ¬ MatchesAt "a.bc: 1\r\n- a.b: 1\r\nx a.b: 1\n\r a.b\r : 2".toList m "a.b".toList := by
  have hchars : "a.b".toList.all isKeyChar = true := by decide
  have hname : IsName "a.b".toList :=
    ⟨by decide, fun c hc => isKeyChar_iff.mp (List.all_eq_true.mp hchars c hc)⟩
  refine ⟨hname, ?_⟩
  rw [← ((findFieldLine_implements_pattern _ _).1 hname).1]
  decide

end AppConfig
