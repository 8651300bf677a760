import AppConfig.Proofs.Text.Pieces
import AppConfig.Text.Line

/-!
# AppConfig.Proofs.Text.Lines

Which lines a text has (`LineAt`), and that `line?` finds them. A text is cut at its line feeds, and
one carriage return in front of a line feed is dropped with it; what stands behind the last line feed
is a line of its own unless it is empty.
-/

namespace AppConfig.Text

/-- The line numbered `n` of a text. -/
inductive LineAt : List Char → Nat → List Char → Prop where
  | feed {line rest : List Char} :
      '\n' ∉ line → line.getLast? ≠ some '\r' → LineAt (line ++ '\n' :: rest) 0 line
  | returnFeed {line rest : List Char} :
      '\n' ∉ line → LineAt (line ++ '\r' :: '\n' :: rest) 0 line
  /-- The last line has no line feed. -/
  | last {line : List Char} : '\n' ∉ line → line ≠ [] → LineAt line 0 line
  /-- The lines below another one are numbered from one. -/
  | next {above rest line : List Char} {n : Nat} :
      '\n' ∉ above → LineAt rest n line → LineAt (above ++ '\n' :: rest) (n + 1) line

/-! ## The first line -/

theorem lines_lineFeed (cs : List Char) : lines ('\n' :: cs) = [] :: lines cs := by
  simp [lines]

/-- A character that does not end a line goes in front of the first line. -/
theorem lines_cons {c : Char} {cs : List Char} (hc : c ≠ '\n')
    (hreturn : c = '\r' → cs.head? ≠ some '\n') : lines (c :: cs) = consLine c (lines cs) := by
  rw [lines.eq_def]
  split
  · contradiction
  · rename_i heq
    obtain ⟨rfl, rfl⟩ := List.cons.inj heq
    exact absurd rfl (hreturn rfl)
  · rename_i heq
    obtain ⟨rfl, rfl⟩ := List.cons.inj heq
    rw [if_neg hc]

theorem lines_of_not_mem {line : List Char} (h : '\n' ∉ line) (hne : line ≠ []) :
    lines line = [line] := by
  induction line with
  | nil => contradiction
  | cons c cs ih =>
    rw [List.mem_cons, not_or] at h
    have hnext : cs.head? ≠ some '\n' := fun hm => h.2 (List.mem_of_mem_head? hm)
    rw [lines_cons (Ne.symm h.1) fun _ => hnext]
    cases cs with
    | nil => rfl
    | cons d ds => rw [ih h.2 (List.cons_ne_nil d ds), consLine]

theorem lines_append_lineFeed {line : List Char} (h : '\n' ∉ line)
    (hlast : line.getLast? ≠ some '\r') (rest : List Char) :
    lines (line ++ '\n' :: rest) = line :: lines rest := by
  induction line with
  | nil => exact lines_lineFeed rest
  | cons c cs ih =>
    rw [List.mem_cons, not_or] at h
    cases cs with
    | nil =>
      have hc : c ≠ '\r' := by simpa using hlast
      rw [List.singleton_append, lines_cons (Ne.symm h.1) fun heq => absurd heq hc,
        lines_lineFeed, consLine]
    | cons d ds =>
      have hd : d ≠ '\n' := fun heq => h.2 (heq ▸ List.mem_cons_self)
      rw [List.getLast?_cons_cons] at hlast
      have hnext : (d :: ds ++ '\n' :: rest).head? ≠ some '\n' := by simpa using hd
      rw [List.cons_append, lines_cons (Ne.symm h.1) fun _ => hnext, ih h.2 hlast, consLine]

theorem lines_append_returnFeed {line : List Char} (h : '\n' ∉ line) (rest : List Char) :
    lines (line ++ '\r' :: '\n' :: rest) = line :: lines rest := by
  induction line with
  | nil => rw [List.nil_append, lines]
  | cons c cs ih =>
    rw [List.mem_cons, not_or] at h
    have hnext : (cs ++ '\r' :: '\n' :: rest).head? ≠ some '\n' := by
      cases cs with
      | nil => simp
      | cons d ds =>
        have hd : d ≠ '\n' := fun heq => h.2 (heq ▸ List.mem_cons_self)
        simpa using hd
    rw [List.cons_append, lines_cons (Ne.symm h.1) fun _ => hnext, ih h.2, consLine]

/-- What stands in front of the first line feed is the first line, with a carriage return or
without. -/
theorem exists_first_line {above : List Char} (h : '\n' ∉ above) (rest : List Char) :
    ∃ line, LineAt (above ++ '\n' :: rest) 0 line ∧
      lines (above ++ '\n' :: rest) = line :: lines rest := by
  by_cases hlast : above.getLast? = some '\r'
  · obtain ⟨line, rfl⟩ := List.getLast?_eq_some_iff.mp hlast
    have hline : '\n' ∉ line := fun hm => h (List.mem_append_left _ hm)
    rw [List.append_assoc, List.singleton_append]
    exact ⟨line, .returnFeed hline, lines_append_returnFeed hline rest⟩
  · exact ⟨above, .feed h hlast, lines_append_lineFeed h hlast rest⟩

/-- A leading byte-order mark is part of the first line. -/
theorem lines_bom (cs : List Char) : lines (bom :: cs) = consLine bom (lines cs) := by
  have hfeed : bom ≠ '\n' := by decide
  have hreturn : bom ≠ '\r' := by decide
  exact lines_cons hfeed fun h => absurd h hreturn

theorem consLine_ne_nil (c : Char) (ls : List (List Char)) : consLine c ls ≠ [] := by
  cases ls with
  | nil => exact List.cons_ne_nil _ _
  | cons l ls => exact List.cons_ne_nil _ _

theorem lines_ne_nil {text : List Char} (h : text ≠ []) : lines text ≠ [] := by
  rw [lines.eq_def]
  split
  · contradiction
  · exact List.cons_ne_nil _ _
  · split
    · exact List.cons_ne_nil _ _
    · exact consLine_ne_nil _ _

theorem length_lines_dropBom_le (text : List Char) :
    (lines (dropBom text)).length ≤ (lines text).length := by
  cases text with
  | nil => exact Nat.le_refl _
  | cons c cs =>
    rw [dropBom]
    split
    · rename_i hbom
      rw [hbom, lines_bom]
      cases lines cs with
      | nil => exact Nat.zero_le _
      | cons l ls => exact Nat.le_refl _
    · exact Nat.le_refl _

/-! ## All lines -/

theorem LineAt.line?_eq {text line : List Char} {n : Nat} (h : LineAt text n line) :
    line? text n = some line := by
  induction h with
  | feed hline hlast => rw [line?, lines_append_lineFeed hline hlast, List.getElem?_cons_zero]
  | returnFeed hline => rw [line?, lines_append_returnFeed hline, List.getElem?_cons_zero]
  | last hline hne => rw [line?, lines_of_not_mem hline hne, List.getElem?_cons_zero]
  | @next above rest _ n habove _ ih =>
    obtain ⟨first, -, hlines⟩ := exists_first_line habove rest
    rw [line?, hlines, List.getElem?_cons_succ]
    exact ih

/-- Without a line feed there is one line at most. -/
theorem lineAt_of_line?_of_not_mem {text line : List Char} {n : Nat} (hfeed : '\n' ∉ text)
    (h : line? text n = some line) : LineAt text n line := by
  by_cases hne : text = []
  · rw [hne] at h
    contradiction
  · rw [line?, lines_of_not_mem hfeed hne] at h
    cases n with
    | zero =>
      cases h
      exact .last hfeed hne
    | succ n => contradiction

/-- The lines that are found are those that the text has. -/
theorem line?_eq_some_iff {text line : List Char} {n : Nat} :
    line? text n = some line ↔ LineAt text n line := by
  refine ⟨fun h => ?_, LineAt.line?_eq⟩
  induction n generalizing text with
  | zero =>
    cases hcut : cut? '\n' text with
    | none => exact lineAt_of_line?_of_not_mem (cut?_eq_none_iff.mp hcut) h
    | some pieces =>
      obtain ⟨rfl, habove⟩ := cut?_eq_some_iff.mp hcut
      obtain ⟨first, hfirst, hlines⟩ := exists_first_line habove pieces.2
      rw [line?, hlines] at h
      cases h
      exact hfirst
  | succ n ih =>
    cases hcut : cut? '\n' text with
    | none => exact lineAt_of_line?_of_not_mem (cut?_eq_none_iff.mp hcut) h
    | some pieces =>
      obtain ⟨rfl, habove⟩ := cut?_eq_some_iff.mp hcut
      obtain ⟨first, -, hlines⟩ := exists_first_line habove pieces.2
      rw [line?, hlines, List.getElem?_cons_succ] at h
      exact .next habove (ih h)

/-- The lines of a text are numbered without a gap. -/
theorem exists_lineAt_iff {text : List Char} {n : Nat} :
    (∃ line, LineAt text n line) ↔ n < (lines text).length := by
  simp only [← line?_eq_some_iff, line?]
  constructor
  · rintro ⟨line, hline⟩
    exact (List.getElem?_eq_some_iff.mp hline).1
  · intro h
    exact ⟨_, List.getElem?_eq_getElem h⟩

end AppConfig.Text
