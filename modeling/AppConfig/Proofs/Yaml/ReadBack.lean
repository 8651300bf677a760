import AppConfig.Yaml.Lexeme.Block
import AppConfig.Yaml.Write
import Mathlib.Data.List.DropRight

/-!
# AppConfig.Proofs.Yaml.ReadBack

Reading undoes writing for the strings of a block. `Block.scalar?` reads the scalar at the front of
a text and the break behind it, in whichever style it stands: plain, in single or double quotes, or
as a literal block. The styles are read by the rules of the language, not by those of the writer:
a plain scalar must stand for a string, and the indentation of a literal block is found in its header
or in its first line.

* `Survey` — what the writer has seen in a string (`Survey.within_rest`).
* `plain?`, `singleQuoted?`, `doubleQuoted?`, `literal?` — the styles, each with the lemma that it reads
  what the writer writes.
* `Block.scalar?_stringLine` — every string is read back, with anything behind it that does not go
  on with the block (`Block.Stops`).
-/

namespace AppConfig.Yaml

/-! ## What the writer has seen -/

namespace Write.Survey

/-- What one survey has not seen, an earlier one has not seen either. -/
structure Within (s t : Survey) : Prop where
  indicator : t.indicator = false → s.indicator = false
  special : t.special = false → s.special = false
  breaks : t.breaks = false → s.breaks = false
  breakSpace : t.breakSpace = false → s.breakSpace = false
  spaceBreak : t.spaceBreak = false → s.spaceBreak = false

theorem within_step (s : Survey) (first : Bool) (c : Char) (next : List Char) :
    s.Within (s.step first c next) where
  indicator h := (Bool.or_eq_false_iff.mp h).1
  special h := (Bool.or_eq_false_iff.mp h).1
  breaks h := (Bool.or_eq_false_iff.mp h).1
  breakSpace h := (Bool.or_eq_false_iff.mp h).1
  spaceBreak h := (Bool.or_eq_false_iff.mp h).1

theorem Within.trans {s t u : Survey} (h : s.Within t) (h' : t.Within u) : s.Within u where
  indicator hu := h.indicator (h'.indicator hu)
  special hu := h.special (h'.special hu)
  breaks hu := h.breaks (h'.breaks hu)
  breakSpace hu := h.breakSpace (h'.breakSpace hu)
  spaceBreak hu := h.spaceBreak (h'.spaceBreak hu)

theorem within_rest (s : Survey) (cs : List Char) : s.Within (s.rest cs) := by
  induction cs generalizing s with
  | nil => exact ⟨id, id, id, id, id⟩
  | cons c cs ih => exact (s.within_step false c cs).trans (ih _)

/-- The first character counts as any other, but for the indicators. -/
def unmarked (s : Survey) : Survey := { s with indicator := false }

theorem unmarked_rest {s t : Survey} (h : s.unmarked = t.unmarked) (cs : List Char) :
    (s.rest cs).unmarked = (t.rest cs).unmarked := by
  induction cs generalizing s t with
  | nil => exact h
  | cons c cs ih =>
    apply ih
    simp only [unmarked, mk.injEq, true_and] at h
    simp [unmarked, step, h]

theorem unmarked_of (cs : List Char) :
    (Survey.of cs).unmarked = (({} : Survey).rest cs).unmarked := by
  cases cs with
  | nil => rfl
  | cons c cs =>
    have hstep : (({} : Survey).step true c cs).unmarked = (({} : Survey).step false c cs).unmarked :=
      rfl
    exact unmarked_rest hstep cs

theorem isPrintable_of_rest {s : Survey} {cs : List Char} (h : (s.rest cs).special = false) :
    ∀ c ∈ cs, isPrintable c = true := by
  induction cs generalizing s with
  | nil => simp
  | cons c cs ih =>
    have hhere := (within_rest (s.step false c cs) cs).special h
    simp only [step, Bool.or_eq_false_iff, Bool.not_eq_false'] at hhere
    exact List.forall_mem_cons.mpr ⟨hhere.2, ih h⟩

/-- Nothing but printable characters. -/
theorem isPrintable_of {cs : List Char} (h : (Survey.of cs).special = false) :
    ∀ c ∈ cs, isPrintable c = true := by
  have hspecial := congrArg special (unmarked_of cs)
  exact isPrintable_of_rest (s := {}) (hspecial.symm.trans h)

end Write.Survey

theorem isBlankChar_of_isPrintable {c : Char} (h : Write.isPrintable c = true) (hspace : c ≠ ' ') :
    isBlankChar c = false := by
  have htab : c ≠ '\t' := by
    rintro rfl
    contradiction
  simp [isBlankChar, hspace, htab]

namespace Block

open Write (ScalarForm Survey spaces)

/-- What stands behind the break at the front. -/
def lineEnd? : List Char → Option (List Char)
  | '\n' :: rest => some rest
  | _ => none

/-- A string with one more character in front. -/
def prepend (c : Char) (r : Option (List Char × List Char)) : Option (List Char × List Char) :=
  r.map fun p => (c :: p.1, p.2)

@[simp] theorem prepend_some (c : Char) (cs rest : List Char) :
    prepend c (some (cs, rest)) = some (c :: cs, rest) := rfl

/-! ## Plain scalars -/

/-- No plain scalar begins with one of these, and with one of the last three only if a character
follows at once. -/
def indicators : List Char :=
  [',', '[', ']', '\x7b', '\x7d', '#', '&', '*', '!', '|', '>', '\'', '"', '%', '@', '\x60']

def startsPlain : List Char → Bool
  | [] => false
  | c :: cs => !(indicators.contains c || ((c == '-' || c == '?' || c == ':') && atGap cs))

/-- A plain scalar goes on up to a break, a colon in front of a gap, or a hash behind a blank. -/
def plainRun (afterBlank : Bool) : List Char → List Char × List Char
  | [] => ([], [])
  | c :: cs =>
    if isBreakChar c || (c == ':' && atGap cs) || (c == '#' && afterBlank) then ([], c :: cs)
    else
      let r := plainRun (isBlankChar c) cs
      (c :: r.1, r.2)

/-- A plain scalar that stands for a string. Blanks at its end do not belong to it. -/
def plain? (cs : List Char) : Option (List Char × List Char) :=
  let run := plainRun true cs
  let text := run.1.rdropWhile isBlankChar
  if startsPlain cs then
    match Scalar.plain (String.ofList text) with
    | .ok (.str _) => (lineEnd? run.2).map fun rest => (text, rest)
    | _ => none
  else none

theorem atGap_append (cs rest : List Char) : atGap (cs ++ '\n' :: rest) = atGap cs := by
  cases cs <;> rfl

theorem plainRun_append {s : Survey} {cs : List Char} (hindicator : (s.rest cs).indicator = false)
    (hbreaks : (s.rest cs).breaks = false) (rest : List Char) :
    plainRun s.afterGap (cs ++ '\n' :: rest) = (cs, '\n' :: rest) := by
  induction cs generalizing s with
  | nil => simp [plainRun, isBreakChar]
  | cons c cs ih =>
    have hwithin := Survey.within_rest (s.step false c cs) cs
    have hhere := hwithin.indicator hindicator
    have hbreak := hwithin.breaks hbreaks
    simp only [Survey.step, Bool.false_eq_true, if_false, Bool.or_eq_false_iff] at hhere hbreak
    have hnext : (s.step false c cs).afterGap = isBlankChar c := by
      simp [Survey.step, hbreak.2]
    have htail := ih hindicator hbreaks
    rw [hnext] at htail
    rw [List.cons_append, plainRun, atGap_append, if_neg (by simp [hbreak.2, hhere.2]), htail]

/-- A string that may stand in plain style has no indicators, no breaks and no blanks around it. -/
structure Plain (c : Char) (cs : List Char) : Prop where
  indicator : (Survey.of (c :: cs)).indicator = false
  breaks : (Survey.of (c :: cs)).breaks = false
  first : isBlankChar c = false
  last : ∀ d ∈ (c :: cs).getLast?, isBlankChar d = false

theorem plain_of_form {c : Char} {cs : List Char} (h : (ScalarForm.of (c :: cs)).plain = true) :
    Plain c cs := by
  simp only [ScalarForm.of, Bool.not_eq_true', Bool.or_eq_false_iff] at h
  obtain ⟨⟨⟨⟨⟨⟨hindicator, -⟩, hfirst, hlast⟩, -⟩, -⟩, hspecial⟩, hbreaks⟩ := h
  have hprintable := Survey.isPrintable_of hspecial
  have hblank {d : Char} (hd : d ∈ c :: cs) (hedge : Write.isSpaceOrBreak d = false) :
      isBlankChar d = false := by
    refine isBlankChar_of_isPrintable (hprintable d hd) ?_
    rintro rfl
    contradiction
  refine ⟨hindicator, hbreaks, hblank List.mem_cons_self hfirst, fun d hd => ?_⟩
  rw [List.getLastD_eq_getLast?, Option.mem_def.mp hd] at hlast
  exact hblank (List.mem_of_getLast? hd) hlast

namespace Plain

variable {c : Char} {cs : List Char} (h : Plain c cs)

include h

theorem not_indicator : indicators.contains c = false ∧
    ((c == '-' || c == '?' || c == ':') && atGap cs) = false := by
  have hhere := (Survey.within_rest _ cs).indicator h.indicator
  simp only [Survey.step, if_true, Bool.false_or, Bool.or_eq_false_iff] at hhere
  simpa [indicators, and_comm, and_assoc, and_left_comm, or_comm, or_left_comm] using hhere

theorem startsPlain_append (rest : List Char) : startsPlain (c :: (cs ++ '\n' :: rest)) = true := by
  rw [startsPlain, atGap_append, h.not_indicator.1, h.not_indicator.2]
  rfl

theorem plainRun_append (rest : List Char) :
    plainRun true (c :: (cs ++ '\n' :: rest)) = (c :: cs, '\n' :: rest) := by
  have hbreak := (Survey.within_rest _ cs).breaks h.breaks
  simp only [Survey.step, Bool.false_or] at hbreak
  have hhash : c ≠ '#' := by
    rintro rfl
    exact absurd h.not_indicator.1 (by decide)
  have hcolon : (c == ':' && atGap cs) = false := by
    have hgap := h.not_indicator.2
    by_cases hc : c = ':'
    · simpa [hc] using hgap
    · simp [hc]
  have htail := Block.plainRun_append h.indicator h.breaks rest
  have hnext : (({} : Survey).step true c cs).afterGap = isBlankChar c := by
    simp [Survey.step, hbreak]
  rw [hnext] at htail
  rw [plainRun, atGap_append, if_neg (by simp [hbreak, hhash, hcolon]), htail]

theorem rdropWhile_eq : (c :: cs).rdropWhile isBlankChar = c :: cs := by
  rw [List.rdropWhile_eq_self_iff]
  intro hne
  rw [h.last _ (List.getLast?_eq_some_getLast hne)]
  exact Bool.false_ne_true

end Plain

theorem plain_eq_str {s t : String} (h : Scalar.plain s = .ok (.str t)) : t = s := by
  unfold Scalar.plain at h
  split at h
  · cases h
  · split at h
    · cases h
    · split at h
      · rename_i i _
        cases i <;> cases h
      · split at h
        · cases h
          rfl
        · split at h
          · cases h
          · cases h
            rfl

theorem plain_ok_of_readsAsOther {s : String} (h : Write.readsAsOther s = false) :
    Scalar.plain s = .ok (.str s) := by
  rw [Write.readsAsOther, Bool.or_eq_false_iff] at h
  obtain ⟨-, h⟩ := h
  split at h
  · rename_i t hplain
    rw [hplain, plain_eq_str hplain]
  · contradiction
  · contradiction

/-- A string in plain style is read back. -/
theorem plain?_append {c : Char} {cs : List Char} (hform : (ScalarForm.of (c :: cs)).plain = true)
    (hstring : Write.readsAsOther (String.ofList (c :: cs)) = false) (rest : List Char) :
    plain? (c :: (cs ++ '\n' :: rest)) = some (c :: cs, rest) := by
  have hplain := plain_of_form hform
  simp only [plain?, hplain.startsPlain_append, if_true, hplain.plainRun_append,
    hplain.rdropWhile_eq, plain_ok_of_readsAsOther hstring, lineEnd?, Option.map_some]

/-! ## Single quotes -/

/-- The breaks that are never folded. -/
def isSeparator (c : Char) : Bool := c == '\u2028' || c == '\u2029'

/-- The text between single quotes, behind the opening one. A quote in it is written twice. Blanks
behind a break are indentation. A break that would be folded, or has a blank in front of it, is
none of this style. -/
def singleQuoted? (afterBreak : Bool) : List Char → Option (List Char × List Char)
  | [] => none
  | '\'' :: '\'' :: cs => prepend '\'' (singleQuoted? false cs)
  | '\'' :: cs => (lineEnd? cs).map fun rest => ([], rest)
  | c :: cs =>
    if isBreakChar c then
      if isSeparator c then prepend c (singleQuoted? true cs) else none
    else if isBlankChar c then
      if afterBreak then singleQuoted? true cs
      else if atBreak cs then none
      else prepend c (singleQuoted? false cs)
    else prepend c (singleQuoted? false cs)

theorem singleQuoted?_cons {c : Char} (hquote : c ≠ '\'') (afterBreak : Bool) (cs : List Char) :
    singleQuoted? afterBreak (c :: cs) =
      if isBreakChar c then
        if isSeparator c then prepend c (singleQuoted? true cs) else none
      else if isBlankChar c then
        if afterBreak then singleQuoted? true cs
        else if atBreak cs then none
        else prepend c (singleQuoted? false cs)
      else prepend c (singleQuoted? false cs) := by
  rw [singleQuoted?]
  · simp [hquote]
  · simp [hquote]

theorem singleQuoted?_end (afterBreak : Bool) (rest : List Char) :
    singleQuoted? afterBreak ('\'' :: '\n' :: rest) = some ([], rest) := by
  rw [singleQuoted?]
  · rfl
  · simp

theorem singleQuoted?_spaces (indent : Nat) (cs : List Char) :
    singleQuoted? true (spaces indent ++ cs) = singleQuoted? true cs := by
  induction indent with
  | zero => rfl
  | succ n ih =>
    rw [spaces, List.replicate_succ, List.cons_append, singleQuoted?_cons (by decide)]
    exact ih

theorem singleQuoted?_indented (afterBreak : Bool) (indent : Nat) (cs : List Char) :
    singleQuoted? afterBreak ((if afterBreak then spaces indent else []) ++ cs) =
      singleQuoted? afterBreak cs := by
  cases afterBreak with
  | false => rfl
  | true => exact singleQuoted?_spaces indent cs

theorem atBreak_singleQuotedTail (indent : Nat) (cs rest : List Char) :
    atBreak (Write.singleQuotedTail indent false cs ++ rest) = atBreak cs := by
  cases cs with
  | nil => rfl
  | cons c cs =>
    rw [Write.singleQuotedTail]
    by_cases hbreak : isBreakChar c = true
    · rw [if_pos hbreak]
      rfl
    · rw [if_neg hbreak]
      by_cases hquote : c = '\''
      · subst hquote
        rfl
      · simp [hquote, atBreak]

theorem atBreak_of_spaceBreak {s : Survey} {cs : List Char} (h : (s.rest cs).spaceBreak = false)
    (hspace : s.afterSpace = true) : atBreak cs = false := by
  cases cs with
  | nil => rfl
  | cons c cs =>
    have hhere := (Survey.within_rest (s.step false c cs) cs).spaceBreak h
    simp only [Survey.step, hspace, Bool.and_true, Bool.or_eq_false_iff] at hhere
    exact hhere.2

theorem isSeparator_of_isPrintable {c : Char} (h : Write.isPrintable c = true)
    (hbreak : isBreakChar c = true) (hfeed : c ≠ '\n') : isSeparator c = true := by
  simp only [isBreakChar, Bool.or_eq_true, beq_iff_eq] at hbreak
  rcases hbreak with (((rfl | rfl) | rfl) | rfl) | rfl
  · exact absurd rfl hfeed
  · contradiction
  · contradiction
  · rfl
  · rfl

/-- What surveys say of a string that may stand in single quotes. -/
structure Quotable (s : Survey) (cs : List Char) : Prop where
  special : (s.rest cs).special = false
  breakSpace : (s.rest cs).breakSpace = false
  spaceBreak : (s.rest cs).spaceBreak = false

theorem singleQuoted?_tail {s : Survey} {cs : List Char} (h : Quotable s cs) (hfeed : '\n' ∉ cs)
    (indent : Nat) (rest : List Char) :
    singleQuoted? s.afterBreak (Write.singleQuotedTail indent s.afterBreak cs ++ '\n' :: rest) =
      some (cs, rest) := by
  induction cs generalizing s with
  | nil =>
    rw [Write.singleQuotedTail]
    cases s.afterBreak with
    | false => exact singleQuoted?_end false rest
    | true =>
      rw [if_pos rfl, List.append_assoc, singleQuoted?_spaces]
      exact singleQuoted?_end true rest
  | cons c cs ih =>
    rw [List.mem_cons, not_or] at hfeed
    have hwithin := Survey.within_rest (s.step false c cs) cs
    have htail := ih (s := s.step false c cs) ⟨h.special, h.breakSpace, h.spaceBreak⟩ hfeed.2
    have hprintable := Survey.isPrintable_of_rest h.special c List.mem_cons_self
    have hnext : (s.step false c cs).afterBreak = isBreakChar c := rfl
    rw [hnext] at htail
    rw [Write.singleQuotedTail]
    by_cases hbreak : isBreakChar c = true
    · have hquote : c ≠ '\'' := by
        rintro rfl
        contradiction
      rw [hbreak] at htail
      rw [if_pos hbreak, List.cons_append, singleQuoted?_cons hquote, if_pos hbreak,
        if_pos (isSeparator_of_isPrintable hprintable hbreak (Ne.symm hfeed.1)), htail, prepend_some]
    · rw [Bool.not_eq_true] at hbreak
      rw [hbreak] at htail
      rw [if_neg (by simp [hbreak]), List.append_assoc, List.append_assoc,
        singleQuoted?_indented]
      by_cases hquote : c = '\''
      · subst hquote
        simp only [beq_self_eq_true, if_true, List.cons_append, List.nil_append, singleQuoted?]
        rw [htail, prepend_some]
      · rw [if_neg (by simpa using hquote), List.singleton_append, singleQuoted?_cons hquote,
          if_neg (by simp [hbreak]), htail, prepend_some]
        by_cases hspace : c = ' '
        · -- no space stands behind a break, and no break behind a space
          have hbehind := hwithin.breakSpace h.breakSpace
          simp only [Survey.step, hspace, beq_self_eq_true, Bool.true_and,
            Bool.or_eq_false_iff] at hbehind
          have hafter : (s.step false c cs).afterSpace = true := by simp [Survey.step, hspace]
          have hfront := atBreak_of_spaceBreak (s := s.step false c cs) h.spaceBreak hafter
          rw [hbehind.2, atBreak_singleQuotedTail, hfront]
          simp
        · rw [if_neg (by simp [isBlankChar_of_isPrintable hprintable hspace])]

/-- A string in single quotes is read back. -/
theorem singleQuoted?_append {cs : List Char} (hform : (ScalarForm.of cs).singleQuoted = true)
    (hfeed : '\n' ∉ cs) (indent : Nat) (rest : List Char) :
    singleQuoted? false (Write.singleQuotedTail indent false cs ++ '\n' :: rest) =
      some (cs, rest) := by
  have hquotable : Quotable {} cs := by
    cases cs with
    | nil => exact ⟨rfl, rfl, rfl⟩
    | cons c cs =>
      have hsurvey := Survey.unmarked_of (c :: cs)
      simp only [ScalarForm.of, Bool.not_eq_true', Bool.or_eq_false_iff] at hform
      obtain ⟨⟨hbreakSpace, hspaceBreak⟩, hspecial⟩ := hform
      exact ⟨(congrArg Survey.special hsurvey).symm.trans hspecial,
        (congrArg Survey.breakSpace hsurvey).symm.trans hbreakSpace,
        (congrArg Survey.spaceBreak hsurvey).symm.trans hspaceBreak⟩
  exact singleQuoted?_tail hquotable hfeed indent rest

/-! ## Double quotes -/

/-- A character by its letter. -/
def letterEscape? : Char → Option Char
  | '0' => some '\x00'
  | 'a' => some '\x07'
  | 'b' => some '\x08'
  | 't' => some '\t'
  | 'n' => some '\n'
  | 'v' => some '\x0b'
  | 'f' => some '\x0c'
  | 'r' => some '\r'
  | 'e' => some '\x1b'
  | '"' => some '"'
  | '\\' => some '\\'
  | 'N' => some '\u0085'
  | '_' => some '\u00a0'
  | 'L' => some '\u2028'
  | 'P' => some '\u2029'
  | _ => none

/-- How many hexadecimal digits of a code point stand behind a letter. -/
def codeWidth? : Char → Option Nat
  | 'x' => some 2
  | 'u' => some 4
  | 'U' => some 8
  | _ => none

/-- The character that stands behind a backslash. -/
def escape? : List Char → Option (Char × List Char)
  | [] => none
  | c :: cs =>
    match codeWidth? c with
    | some width =>
      if cs.length < width then none
      else (Text.readNat? 16 (cs.take width)).map fun n => (Char.ofNat n, cs.drop width)
    | none => (letterEscape? c).map fun d => (d, cs)

theorem length_le_of_escape? {cs rest : List Char} {d : Char} (h : escape? cs = some (d, rest)) :
    rest.length ≤ cs.length := by
  unfold escape? at h
  split at h
  · cases h
  · split at h
    · split at h
      · cases h
      · obtain ⟨n, -, heq⟩ := Option.map_eq_some_iff.mp h
        cases heq
        simp only [List.length_drop, List.length_cons]
        omega
    · obtain ⟨d, -, heq⟩ := Option.map_eq_some_iff.mp h
      cases heq
      simp

/-- The text between double quotes, behind the opening one. A break in it would be folded; it is
none of this style. -/
def doubleQuoted? : List Char → Option (List Char × List Char)
  | [] => none
  | c :: cs =>
    if c = '"' then (lineEnd? cs).map fun rest => ([], rest)
    else if c = '\\' then
      match _h : escape? cs with
      | some (d, rest) => prepend d (doubleQuoted? rest)
      | none => none
    else if isBreakChar c then none
    else prepend c (doubleQuoted? cs)
termination_by cs => cs.length
decreasing_by
  · exact Nat.lt_succ_of_le (length_le_of_escape? _h)
  · simp

/-- How a character is written between double quotes. -/
inductive Escaped (c : Char) : List Char → Prop where
  | plain : c ≠ '"' → c ≠ '\\' → isBreakChar c = false → Escaped c [c]
  | letter {e : Char} : codeWidth? e = none → letterEscape? e = some c → Escaped c ['\\', e]
  | code {e : Char} {width : Nat} : codeWidth? e = some width →
      (Nat.toDigits 16 c.toNat).length ≤ width → Escaped c ('\\' :: e :: Write.hexUpper width c.toNat)

theorem escaped_doubleQuotedChar (c : Char) : Escaped c (Write.doubleQuotedChar c) := by
  have hdigits {width : Nat} (hpos : 0 < width) (h : c.toNat < 16 ^ width) :
      (Nat.toDigits 16 c.toNat).length ≤ width :=
    (Nat.length_toDigits_le_iff (by decide) hpos).mpr h
  unfold Write.doubleQuotedChar
  dsimp only
  split
  · rename_i hplain
    simp only [Bool.and_eq_true, Bool.not_eq_true', bne_iff_ne, ne_eq] at hplain
    exact .plain hplain.1.2 hplain.2 hplain.1.1.2
  · split
    iterate 15 exact .letter rfl rfl
    split
    · exact .code (e := 'x') rfl (hdigits (by decide) (by omega))
    · split
      · exact .code (e := 'u') rfl (hdigits (by decide) (by omega))
      · have hword : c.toNat < 2 ^ 32 := c.val.toNat_lt
        exact .code (e := 'U') rfl (hdigits (by decide) (by omega))

theorem readDigits_append (base acc : Nat) (cs ds : List Char) :
    Text.readDigits base acc (cs ++ ds) =
      (Text.readDigits base acc cs).bind fun n => Text.readDigits base n ds := by
  induction cs generalizing acc with
  | nil => rfl
  | cons c cs ih =>
    rw [List.cons_append, Text.readDigits, Text.readDigits]
    cases Text.digitBelow? base c with
    | none => rfl
    | some d => exact ih _

theorem readDigits_toDigits (n : Nat) :
    Text.readDigits 16 0 ((Nat.toDigits 16 n).map Char.toUpper) = some n := by
  have hdigit : ∀ d < 16, Text.digitBelow? 16 d.digitChar.toUpper = some d := by decide
  induction n using Nat.strongRecOn with
  | ind n ih =>
    by_cases hn : n < 16
    · simp [Nat.toDigits_of_lt_base hn, Text.readDigits, hdigit n hn]
    · have hlast := hdigit (n % 16) (Nat.mod_lt n (by decide))
      rw [Nat.toDigits_of_base_le (by decide) (by omega), List.map_append, readDigits_append,
        ih (n / 16) (by omega)]
      simp [Text.readDigits, hlast]
      omega

theorem readDigits_zeros (k : Nat) (cs : List Char) :
    Text.readDigits 16 0 (List.replicate k '0' ++ cs) = Text.readDigits 16 0 cs := by
  induction k with
  | zero => rfl
  | succ k ih => exact ih

theorem length_hexUpper {width n : Nat} (h : (Nat.toDigits 16 n).length ≤ width) :
    (Write.hexUpper width n).length = width := by
  simp only [Write.hexUpper, List.length_append, List.length_replicate, List.length_map]
  omega

theorem readNat?_hexUpper (width n : Nat) : Text.readNat? 16 (Write.hexUpper width n) = some n := by
  have hdigits : Text.readDigits 16 0 (Write.hexUpper width n) = some n := by
    rw [Write.hexUpper, readDigits_zeros, readDigits_toDigits]
  have hne : Write.hexUpper width n ≠ [] := by simp [Write.hexUpper, Nat.toDigits_ne_nil]
  obtain ⟨c, cs, hcons⟩ := List.exists_cons_of_ne_nil hne
  rw [hcons] at hdigits ⊢
  exact hdigits

theorem doubleQuoted?_slash {cs rest : List Char} {d : Char} (h : escape? cs = some (d, rest)) :
    doubleQuoted? ('\\' :: cs) = prepend d (doubleQuoted? rest) := by
  rw [doubleQuoted?, if_neg (by decide), if_pos rfl]
  split
  · rename_i hsome
    rw [h] at hsome
    cases hsome
    rfl
  · rename_i hnone
    rw [h] at hnone
    contradiction

theorem doubleQuoted?_escaped {c : Char} {written : List Char} (h : Escaped c written)
    (cs : List Char) : doubleQuoted? (written ++ cs) = prepend c (doubleQuoted? cs) := by
  cases h with
  | plain hquote hslash hbreak =>
    rw [List.singleton_append, doubleQuoted?, if_neg hquote, if_neg hslash, if_neg (by simp [hbreak])]
  | @letter e hwidth hletter =>
    have hescape : escape? (e :: cs) = some (c, cs) := by simp [escape?, hwidth, hletter]
    exact doubleQuoted?_slash hescape
  | @code e width hwidth hcode =>
    have hlength := length_hexUpper hcode
    have hescape : escape? (e :: (Write.hexUpper width c.toNat ++ cs)) = some (c, cs) := by
      simp [escape?, hwidth, hlength, List.take_left' hlength, List.drop_left' hlength,
        readNat?_hexUpper, Char.ofNat_toNat]
    exact doubleQuoted?_slash hescape

theorem doubleQuoted?_append (cs rest : List Char) :
    doubleQuoted? (cs.flatMap Write.doubleQuotedChar ++ '"' :: '\n' :: rest) = some (cs, rest) := by
  induction cs with
  | nil =>
    rw [List.flatMap_nil, List.nil_append, doubleQuoted?, if_pos rfl]
    rfl
  | cons c cs ih =>
    rw [List.flatMap_cons, List.append_assoc, doubleQuoted?_escaped (escaped_doubleQuotedChar c),
      ih, prepend_some]

/-! ## Literal blocks -/

/-- The characters of a block whose lines are indented by `indent`, and what stands behind it. Empty
lines need no indentation; the first other line without it ends the block. -/
def literalBody (indent : Nat) : Bool → List Char → List Char × List Char
  | _, [] => ([], [])
  | inside, c :: cs =>
    if inside || isBreakChar c then
      let r := literalBody indent (!isBreakChar c) cs
      (c :: r.1, r.2)
    else if (spaces indent).isPrefixOf (c :: cs) then literalBody indent true ((c :: cs).drop indent)
    else ([], c :: cs)
termination_by inside cs => (cs.length, (!inside).toNat)
decreasing_by
  · exact Prod.Lex.left _ _ (Nat.lt_succ_self cs.length)
  · rename_i hinside _
    simp only [Bool.or_eq_true, not_or, Bool.not_eq_true] at hinside
    rw [hinside.1]
    rcases Nat.eq_zero_or_pos indent with rfl | hpos
    · exact Prod.Lex.right _ (by decide)
    · apply Prod.Lex.left
      simp only [List.length_drop, List.length_cons]
      omega

/-- What stands behind a block: it is neither empty nor indented like the block. -/
def Stops (indent : Nat) (rest : List Char) : Prop :=
  atBreak rest = false ∧ (spaces indent).isPrefixOf rest = false

theorem literalBody_inside {inside : Bool} {c : Char} (h : (inside || isBreakChar c) = true)
    (indent : Nat) (cs : List Char) :
    literalBody indent inside (c :: cs) =
      (c :: (literalBody indent (!isBreakChar c) cs).1,
        (literalBody indent (!isBreakChar c) cs).2) := by
  rw [literalBody, if_pos h]

theorem literalBody_of_stops {indent : Nat} {rest : List Char} (h : Stops indent rest) :
    literalBody indent false rest = ([], rest) := by
  cases rest with
  | nil => rw [literalBody]
  | cons c cs =>
    have hbreak : isBreakChar c = false := h.1
    rw [literalBody, if_neg (by simp [hbreak]), if_neg (by simp [h.2])]

theorem literalBody_spaces {c : Char} (h : isBreakChar c = false) (indent : Nat) (cs : List Char) :
    literalBody indent false (spaces indent ++ c :: cs) =
      literalBody indent true (c :: cs) := by
  obtain ⟨d, ds, hcons⟩ : ∃ d ds, spaces indent ++ c :: cs = d :: ds :=
    List.exists_cons_of_ne_nil (by simp)
  have hfirst : isBreakChar d = false := by
    cases indent with
    | zero =>
      cases hcons
      exact h
    | succ n =>
      cases hcons
      rfl
  have hindented : (spaces indent).isPrefixOf (d :: ds) = true := by
    rw [← hcons, List.isPrefixOf_iff_prefix]
    exact List.prefix_append _ _
  have hdrop : (d :: ds).drop indent = c :: cs := by
    have hlength : (spaces indent).length = indent := List.length_replicate
    rw [← hcons, List.drop_left' hlength]
  rw [hcons, literalBody, if_neg (by simp [hfirst]), if_pos hindented, hdrop]

/-- Whether a line goes on behind some characters. -/
def insideAfter (inside : Bool) (cs : List Char) : Bool :=
  cs.foldl (fun _ c => !isBreakChar c) inside

theorem literalBody_lines (indent : Nat) (inside : Bool) (cs rest : List Char) :
    literalBody indent inside (Write.literalLines indent (!inside) cs ++ rest) =
      (cs ++ (literalBody indent (insideAfter inside cs) rest).1,
        (literalBody indent (insideAfter inside cs) rest).2) := by
  induction cs generalizing inside with
  | nil => rfl
  | cons c cs ih =>
    have htail := ih (!isBreakChar c)
    rw [Bool.not_not] at htail
    rw [Write.literalLines]
    by_cases hbreak : isBreakChar c = true
    · rw [if_pos hbreak, List.cons_append, literalBody_inside (by simp [hbreak])]
      rw [hbreak] at htail ⊢
      rw [htail]
      simp [insideAfter, hbreak]
    · rw [Bool.not_eq_true] at hbreak
      have hline : literalBody indent inside
          ((if (!inside) = true then spaces indent else []) ++ c :: Write.literalLines indent false cs ++
            rest) =
          literalBody indent true (c :: (Write.literalLines indent false cs ++ rest)) := by
        cases inside with
        | true => rfl
        | false =>
          rw [List.append_assoc, List.cons_append]
          exact literalBody_spaces hbreak indent _
      rw [if_neg (by simp [hbreak]), hline, literalBody_inside rfl]
      rw [hbreak] at htail ⊢
      rw [htail]
      simp [insideAfter, hbreak]

/-- The digit of a header. -/
def increment : List Char → Option Nat × List Char
  | [] => (none, [])
  | c :: cs => if c.isDigit && c != '0' then (some (c.toNat - '0'.toNat), cs) else (none, c :: cs)

/-- The sign of a header. -/
def chomping : List Char → Chomping × List Char
  | '+' :: cs => (.keep, cs)
  | '-' :: cs => (.strip, cs)
  | cs => (.clip, cs)

/-- A block without those of the breaks at its end that do not belong to the text. -/
def chomped (body : List Char) : Chomping → List Char
  | .strip => body.rdropWhile isBreakChar
  | .clip =>
    let core := body.rdropWhile isBreakChar
    core ++ (body.drop core.length).take 1
  | .keep => body

/-- How deep the first line that is not empty is indented. -/
def indentation (cs : List Char) : Nat := ((cs.dropWhile isBreakChar).takeWhile (· == ' ')).length

/-- A reader takes these for line feeds. -/
def isFeedLike (c : Char) : Bool := c == '\r' || c == '\u0085'

/-- The text of a literal block in a mapping at `column`, behind the bar. -/
def literal? (column : Nat) (cs : List Char) : Option (List Char × List Char) :=
  let width := increment cs
  let ending := chomping width.2
  (lineEnd? ending.2).bind fun cs =>
    let body := literalBody (width.1.elim (indentation cs) (column + ·)) false cs
    if body.1.any isFeedLike then none else some (chomped body.1 ending.1, body.2)

/-- The sign for what becomes of the breaks. -/
def sign : Chomping → List Char
  | .strip => ['-']
  | .clip => []
  | .keep => ['+']

/-- How a text ends, which sign that asks for, and which break the block has beside its own. -/
inductive Ending : List Char → Chomping → List Char → Prop where
  | none {cs : List Char} {c : Char} : isBreakChar c = false → Ending (cs ++ [c]) .strip ['\n']
  | one {cs : List Char} {c b : Char} : isBreakChar c = false → isBreakChar b = true →
      Ending (cs ++ [c, b]) .clip []
  | more {cs : List Char} {b : Char} : isBreakChar b = true → Ending (cs ++ [b]) .keep []

theorem exists_endSign {cs : List Char} (h : cs ≠ []) :
    ∃ ending closing, Ending cs ending closing ∧ (Write.endSign cs).1 = sign ending ∧
      (if (Write.endSign cs).2 then [] else ['\n']) = closing := by
  obtain ⟨cs, b, rfl⟩ := (List.eq_nil_or_concat' cs).resolve_left h
  rw [Write.endSign, List.reverse_concat]
  cases hb : isBreakChar b with
  | false =>
    refine ⟨_, _, .none hb, ?_⟩
    cases cs.reverse <;> simp [hb, sign]
  | true =>
    obtain rfl | ⟨cs, d, rfl⟩ := List.eq_nil_or_concat' cs
    · exact ⟨_, _, .more hb, by simp [hb, sign]⟩
    · rw [List.reverse_concat]
      cases hd : isBreakChar d with
      | false =>
        rw [List.append_assoc]
        exact ⟨_, _, .one hd hb, by simp [hb, hd, sign]⟩
      | true => exact ⟨_, _, .more hb, by simp [hb, hd, sign]⟩

theorem exists_literal (indent : Nat) {cs : List Char} (h : cs ≠ []) :
    ∃ ending closing, Ending cs ending closing ∧
      Write.literal indent cs =
        '|' :: (Write.indentDigit cs ++
          (sign ending ++ '\n' :: (Write.literalLines indent true cs ++ closing))) := by
  obtain ⟨ending, closing, hending, hsign, hclosing⟩ := exists_endSign h
  exact ⟨ending, closing, hending, by simp [Write.literal, hsign, hclosing]⟩

theorem chomped_append {cs closing : List Char} {ending : Chomping}
    (h : Ending cs ending closing) : chomped (cs ++ closing) ending = cs := by
  cases h with
  | none hc =>
    rw [chomped, List.rdropWhile_concat_pos _ _ _ rfl,
      List.rdropWhile_concat_neg _ _ _ (by simp [hc])]
  | @one cs c b hc hb =>
    have hcore : (cs ++ [c, b]).rdropWhile isBreakChar = cs ++ [c] := by
      rw [List.append_cons, List.rdropWhile_concat_pos _ _ _ hb,
        List.rdropWhile_concat_neg _ _ _ (by simp [hc])]
    simp [chomped, hcore]
  | more => rw [chomped, List.append_nil]

theorem literalBody_append {cs closing rest : List Char} {ending : Chomping} {indent : Nat}
    (h : Ending cs ending closing) (hstops : Stops indent rest) :
    literalBody indent false (Write.literalLines indent true cs ++ (closing ++ rest)) =
      (cs ++ closing, rest) := by
  have hlines := literalBody_lines indent false cs (closing ++ rest)
  rw [Bool.not_false] at hlines
  rw [hlines]
  cases h with
  | @none cs c hc =>
    have hinside : insideAfter false (cs ++ [c]) = true := by simp [insideAfter, hc]
    have hgoes : (true || isBreakChar '\n') = true := rfl
    have hlast := literalBody_inside hgoes indent rest
    rw [hinside, List.singleton_append, hlast, show isBreakChar '\n' = true from rfl, Bool.not_true,
      literalBody_of_stops hstops]
  | @one cs c b _ hb =>
    have hinside : insideAfter false (cs ++ [c, b]) = false := by simp [insideAfter, hb]
    rw [hinside, List.nil_append, literalBody_of_stops hstops]
  | @more cs b hb =>
    have hinside : insideAfter false (cs ++ [b]) = false := by simp [insideAfter, hb]
    rw [hinside, List.nil_append, literalBody_of_stops hstops]

theorem increment_sign (ending : Chomping) (cs : List Char) :
    increment (sign ending ++ '\n' :: cs) = (none, sign ending ++ '\n' :: cs) := by
  cases ending <;> rfl

theorem chomping_sign (ending : Chomping) (cs : List Char) :
    chomping (sign ending ++ '\n' :: cs) = (ending, '\n' :: cs) := by
  cases ending <;> rfl

theorem indentation_spaces {c : Char} (h : Write.isSpaceOrBreak c = false) (indent : Nat)
    (cs : List Char) : indentation (spaces indent ++ c :: cs) = indent := by
  rw [Write.isSpaceOrBreak, Bool.or_eq_false_iff] at h
  have hdrop : (spaces indent ++ c :: cs).dropWhile isBreakChar = spaces indent ++ c :: cs := by
    cases indent with
    | zero => exact List.dropWhile_cons_of_neg (by simp [h.2])
    | succ n => rfl
  rw [indentation, hdrop, spaces, List.takeWhile_append_of_pos (by simp),
    List.takeWhile_cons_of_neg (by simpa using h.1), List.append_nil, List.length_replicate]

/-- The indentation is found: by the digit, or in the first line. -/
theorem increment_elim {cs : List Char} (h : cs ≠ []) (column : Nat) (ending : Chomping)
    (rest : List Char) :
    let body := Write.literalLines (column + 2) true cs ++ rest
    let header := increment (Write.indentDigit cs ++ (sign ending ++ '\n' :: body))
    header.1.elim (indentation body) (column + ·) = column + 2 ∧
      header.2 = sign ending ++ '\n' :: body := by
  obtain ⟨c, cs, rfl⟩ := List.exists_cons_of_ne_nil h
  intro body header
  cases hc : Write.isSpaceOrBreak c with
  | true =>
    have hheader : header = (some 2, sign ending ++ '\n' :: body) := by
      simp only [header, Write.indentDigit, hc, if_true]
      rfl
    rw [hheader]
    exact ⟨rfl, rfl⟩
  | false =>
    have hheader : header = (none, sign ending ++ '\n' :: body) := by
      simp only [header, Write.indentDigit, hc, Bool.false_eq_true, if_false]
      exact increment_sign ending body
    have hbreak : isBreakChar c = false := (Bool.or_eq_false_iff.mp hc).2
    have hbody : body =
        spaces (column + 2) ++ c :: (Write.literalLines (column + 2) false cs ++ rest) := by
      simp [body, Write.literalLines, hbreak]
    rw [hheader, hbody]
    exact ⟨indentation_spaces hc _ _, rfl⟩

theorem isFeedLike_of_isPrintable {c : Char} (h : Write.isPrintable c = true) :
    isFeedLike c = false := by
  rw [Bool.eq_false_iff]
  intro hfeed
  rw [isFeedLike, Bool.or_eq_true, beq_iff_eq, beq_iff_eq] at hfeed
  rcases hfeed with rfl | rfl <;> contradiction

theorem isPrintable_of_block {cs : List Char} (h : (ScalarForm.of cs).block = true) :
    ∀ c ∈ cs, Write.isPrintable c = true := by
  cases cs with
  | nil => simp
  | cons c cs =>
    simp only [ScalarForm.of, Bool.not_eq_true', Bool.or_eq_false_iff] at h
    exact Survey.isPrintable_of h.2

/-- A string in a literal block is read back. -/
theorem literal?_append {cs : List Char} (hne : cs ≠ []) (hform : (ScalarForm.of cs).block = true)
    {column : Nat} {rest : List Char} (hstops : Stops (column + 2) rest) :
    ∃ text, Write.literal (column + 2) cs = '|' :: text ∧
      literal? column (text ++ rest) = some (cs, rest) := by
  obtain ⟨ending, closing, hending, hwritten⟩ := exists_literal (column + 2) hne
  refine ⟨_, hwritten, ?_⟩
  obtain ⟨hwidth, hheader⟩ := increment_elim hne column ending (closing ++ rest)
  have hkept : (cs ++ closing).any isFeedLike = false := by
    have hclosing : ∀ c ∈ closing, isFeedLike c = false := by
      cases hending <;> simp [isFeedLike]
    rw [List.any_eq_false]
    intro c hc
    rw [Bool.not_eq_true]
    rcases List.mem_append.mp hc with hc | hc
    · exact isFeedLike_of_isPrintable (isPrintable_of_block hform c hc)
    · exact hclosing c hc
  simp only [List.append_assoc, List.cons_append, literal?, hheader, chomping_sign, lineEnd?,
    Option.bind_some, hwidth, literalBody_append hending hstops, hkept, Bool.false_eq_true, if_false,
    chomped_append hending]

/-! ## Scalars -/

/-- The scalar at the front and what stands behind its line. A literal block belongs to a mapping at
`column`. -/
def scalar? (column : Nat) (cs : List Char) : Option (List Char × List Char) :=
  match cs with
  | '\'' :: cs => singleQuoted? false cs
  | '"' :: cs => doubleQuoted? cs
  | '|' :: cs => literal? column cs
  | cs => plain? cs

theorem scalar?_plain {c : Char} (h : indicators.contains c = false) (column : Nat)
    (cs : List Char) : scalar? column (c :: cs) = plain? (c :: cs) := by
  unfold scalar?
  split
  · rename_i heq
    cases heq
    contradiction
  · rename_i heq
    cases heq
    contradiction
  · rename_i heq
    cases heq
    contradiction
  · rfl

/-- Every string is read back. -/
theorem scalar?_stringLine (s : String) {column : Nat} {rest : List Char}
    (hstops : Stops (column + 2) rest) :
    scalar? column (Write.stringLine (column + 2) s ++ rest) = some (s.toList, rest) := by
  have hdouble : scalar? column (Write.doubleQuoted s.toList ++ ['\n'] ++ rest) =
      some (s.toList, rest) := by
    simpa [Write.doubleQuoted, scalar?] using doubleQuoted?_append s.toList rest
  unfold Write.stringLine
  dsimp only
  split_ifs with hfeed hblock hplain hsingle
  · have hne : s.toList ≠ [] := by
      intro hnil
      simp [hnil] at hfeed
    obtain ⟨text, hwritten, hread⟩ := literal?_append hne hblock hstops
    rw [hwritten]
    exact hread
  · exact hdouble
  · rw [Bool.and_eq_true, Bool.not_eq_true'] at hplain
    obtain ⟨hform, hstring⟩ := hplain
    cases hcs : s.toList with
    | nil =>
      -- the empty string is null in plain style
      rw [← String.ofList_toList (s := s), hcs] at hstring
      exact absurd hstring (by decide)
    | cons c cs =>
      rw [hcs] at hform
      have hreads : Write.readsAsOther (String.ofList (c :: cs)) = false := by
        rwa [← hcs, String.ofList_toList]
      have hread := plain?_append hform hreads rest
      have hfirst := (plain_of_form hform).not_indicator.1
      simpa [scalar?_plain hfirst] using hread
  · have hread := singleQuoted?_append hsingle (by simpa using hfeed) (column + 2) rest
    simpa [scalar?] using hread
  · exact hdouble

end Block

end AppConfig.Yaml
