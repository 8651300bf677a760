import AppConfig.Json.Parse
import AppConfig.Json.Print
import Mathlib.Data.List.Basic
import Mathlib.Data.List.DropRight
import Mathlib.Data.List.TakeDrop

/-!
# AppConfig.Proofs.Json.RoundTrip

Reading JSON undoes writing it. Every string is read back from its escapes, every whole number of
64 bits from its digits, and from these all values that are put together of them (`Exact`), whatever
the indentation (`parse?_pretty`). Doubles are left out: what is read of their digits may be a
neighbour.
-/

namespace AppConfig.Json

/-! ## Strings -/

theorem hex4?_control (n : Nat) (h : n < 32) (rest : List Char) :
    hex4? ('0' :: '0' :: hexDigit (n / 16) :: hexDigit (n % 16) :: rest) = some (n, rest) := by
  have hdigits : ∀ n < 32, Text.readNat? 16 ['0', '0', hexDigit (n / 16), hexDigit (n % 16)] =
      some n := by decide
  simp [hex4?, hdigits n h]

theorem unitEscape?_control (c : Char) (h : c.toNat < 32) (rest : List Char) :
    unitEscape? ('0' :: '0' :: hexDigit (c.toNat / 16) :: hexDigit (c.toNat % 16) :: rest) =
      some (c, rest) := by
  have hplane : (decide (c.toNat < 0xD800) || decide (0xDFFF < c.toNat)) = true := by
    rw [Bool.or_eq_true, decide_eq_true_iff]
    omega
  simp only [unitEscape?, hex4?_control _ h, hplane, if_true, Char.ofNat_toNat]

theorem stringTail_letter {e c : Char} (hunit : e ≠ 'u') (h : letterEscape? e = some c) (fuel : Nat)
    (cs : List Char) :
    stringTail (fuel + 1) ('\\' :: e :: cs) =
      (stringTail fuel cs).map fun p => (c :: p.1, p.2) := by
  rw [stringTail, h]
  · cases stringTail fuel cs <;> rfl
  · simpa using hunit

theorem stringTail_unit {c : Char} {cs rest : List Char} (h : unitEscape? cs = some (c, rest))
    (fuel : Nat) :
    stringTail (fuel + 1) ('\\' :: 'u' :: cs) =
      (stringTail fuel rest).map fun p => (c :: p.1, p.2) := by
  rw [stringTail, h]
  cases hrest : stringTail fuel rest <;> simp [hrest]

theorem stringTail_plain {c : Char} (hquote : c ≠ '"') (hslash : c ≠ '\\') (h : ¬ c.toNat < 0x20)
    (fuel : Nat) (cs : List Char) :
    stringTail (fuel + 1) (c :: cs) = (stringTail fuel cs).map fun p => (c :: p.1, p.2) := by
  have hplain : (c == '\\' || decide (c.toNat < 0x20)) = false := by simp [hslash, h]
  rw [stringTail, hplain]
  · cases stringTail fuel cs <;> rfl
  · simpa using hquote
  · simp [hslash]
  · simp [hslash]

/-- How a character is written: by a letter, by its number, or as it is. -/
inductive Written (c : Char) : List Char → Prop where
  | letter {e : Char} : e ≠ 'u' → letterEscape? e = some c → Written c ['\\', e]
  | control : c.toNat < 0x20 →
      Written c ['\\', 'u', '0', '0', hexDigit (c.toNat / 16), hexDigit (c.toNat % 16)]
  | plain : c ≠ '"' → c ≠ '\\' → ¬ c.toNat < 0x20 → Written c [c]

theorem written_escapeChar (c : Char) : Written c (escapeChar c) := by
  by_cases hletter : c ∈ ['"', '\\', '\n', '\r', '\t', '\x08', '\x0c']
  · simp only [List.mem_cons, List.not_mem_nil, or_false] at hletter
    rcases hletter with rfl | rfl | rfl | rfl | rfl | rfl | rfl
    all_goals exact .letter (by decide) rfl
  · simp only [List.mem_cons, List.not_mem_nil, or_false, not_or] at hletter
    simp only [escapeChar, hletter, if_false]
    split
    · exact .control ‹_›
    · exact .plain hletter.1 hletter.2.1 ‹_›

/-- One written character is read as one character. -/
theorem stringTail_escapeChar (c : Char) (fuel : Nat) (cs : List Char) :
    stringTail (fuel + 1) (escapeChar c ++ cs) =
      (stringTail fuel cs).map fun p => (c :: p.1, p.2) := by
  have hwritten := written_escapeChar c
  generalize escapeChar c = written at hwritten ⊢
  cases hwritten with
  | letter hunit hescape => exact stringTail_letter hunit hescape fuel cs
  | control hcontrol => exact stringTail_unit (unitEscape?_control c hcontrol cs) fuel
  | plain hquote hslash hcontrol => exact stringTail_plain hquote hslash hcontrol fuel cs

theorem stringTail_escaped {s : List Char} {fuel : Nat} (h : s.length < fuel) (rest : List Char) :
    stringTail fuel (s.flatMap escapeChar ++ '"' :: rest) = some (s, rest) := by
  induction s generalizing fuel with
  | nil =>
    obtain ⟨fuel, rfl⟩ := Nat.exists_eq_add_of_lt h
    simp [stringTail]
  | cons c s ih =>
    obtain ⟨fuel, rfl⟩ := Nat.exists_eq_succ_of_ne_zero (Nat.ne_zero_of_lt h)
    have hrest := ih (Nat.succ_lt_succ_iff.mp h)
    rw [List.flatMap_cons, List.append_assoc, Nat.succ_eq_add_one, stringTail_escapeChar, hrest,
      Option.map_some]

theorem escapeChar_ne_nil (c : Char) : escapeChar c ≠ [] := by
  have hwritten := written_escapeChar c
  generalize escapeChar c = written at hwritten ⊢
  cases hwritten <;> exact List.cons_ne_nil _ _

theorem length_le_escaped (s : List Char) : s.length ≤ (s.flatMap escapeChar).length := by
  induction s with
  | nil => exact Nat.le_refl _
  | cons c s ih =>
    have hc := List.length_pos_iff.mpr (escapeChar_ne_nil c)
    rw [List.flatMap_cons, List.length_append, List.length_cons]
    omega

/-- A string is read back, with anything behind it. -/
@[simp] theorem string?_escaped (s rest : List Char) :
    string? (s.flatMap escapeChar ++ '"' :: rest) = some (String.ofList s, rest) := by
  have hfuel : s.length < (s.flatMap escapeChar ++ '"' :: rest).length + 1 := by
    have hlength := length_le_escaped s
    rw [List.length_append]
    omega
  rw [string?, stringTail_escaped hfuel, Option.map_some]

@[simp] theorem quote_append (s rest : List Char) :
    quote s ++ rest = '"' :: (s.flatMap escapeChar ++ '"' :: rest) := by
  simp [quote]

/-! ## Numbers -/

/-- What a number could go on with. -/
def isNumberChar (c : Char) : Bool := c.isDigit || c == '.' || c == 'e' || c == 'E'

/-- A text that does not go on with a number. -/
def Ends (rest : List Char) : Prop := ∀ c ∈ rest.head?, isNumberChar c = false

theorem ends_cons {c : Char} (h : isNumberChar c = false) (rest : List Char) : Ends (c :: rest) := by
  intro d hd
  rw [List.head?_cons, Option.mem_some_iff] at hd
  exact hd ▸ h

theorem Ends.not_isNumberChar {c : Char} {rest : List Char} (h : Ends (c :: rest)) :
    c.isDigit = false ∧ c ≠ '.' ∧ c ≠ 'e' ∧ c ≠ 'E' := by
  have hc := h c rfl
  simp only [isNumberChar, Bool.or_eq_false_iff, beq_eq_false_iff_ne] at hc
  exact ⟨hc.1.1.1, hc.1.1.2, hc.1.2, hc.2⟩

theorem isDigit_of_mem_toDigits {n : Nat} {c : Char} (h : c ∈ Nat.toDigits 10 n) :
    c.isDigit = true :=
  Nat.isDigit_of_mem_toDigits (by decide) (by decide) h

theorem span_toDigits (n : Nat) {rest : List Char} (h : Ends rest) :
    (Nat.toDigits 10 n ++ rest).span Char.isDigit = (Nat.toDigits 10 n, rest) := by
  have hdigits : ∀ c ∈ Nat.toDigits 10 n, c.isDigit = true := fun _ => isDigit_of_mem_toDigits
  rw [List.span_eq_takeWhile_dropWhile, List.takeWhile_append_of_pos hdigits,
    List.dropWhile_append_of_pos hdigits]
  cases rest with
  | nil => simp
  | cons c rest => simp [h.not_isNumberChar.1]

/-- Only zero is written with a zero in front. -/
theorem head?_toDigits_ne {n : Nat} (h : n ≠ 0) : (Nat.toDigits 10 n).head? ≠ some '0' := by
  induction n using Nat.strongRecOn with
  | ind n ih =>
    by_cases hn : n < 10
    · rw [Nat.toDigits_of_lt_base hn]
      have hdigit : ∀ n < 10, n ≠ 0 → n.digitChar ≠ '0' := by decide
      simpa using hdigit n hn h
    · have hfront := ih (n / 10) (by omega) (by omega)
      rwa [Nat.toDigits_of_base_le (by decide) (by omega),
        List.head?_append_of_ne_nil _ Nat.toDigits_ne_nil]

theorem wholePart?_toDigits (n : Nat) {rest : List Char} (h : Ends rest) :
    wholePart? (Nat.toDigits 10 n ++ rest) = some (Nat.toDigits 10 n, rest) := by
  by_cases hn : n = 0
  · subst hn
    cases rest with
    | nil => rfl
    | cons c rest =>
      have hzero : Nat.toDigits 10 0 = ['0'] := by decide
      simp [hzero, wholePart?, h.not_isNumberChar.1]
  · have hne : Nat.toDigits 10 n ≠ [] := Nat.toDigits_ne_nil
    have hhead := head?_toDigits_ne hn
    rw [wholePart?, span_toDigits n h]
    · simp [hne]
    · intro rest' heq
      rw [← List.head?_append_of_ne_nil _ hne, heq] at hhead
      exact hhead rfl

theorem fractionPart?_of_ends {rest : List Char} (h : Ends rest) :
    fractionPart? rest = some ([], rest) := by
  cases rest with
  | nil => rfl
  | cons c rest =>
    rw [fractionPart?]
    simpa using h.not_isNumberChar.2.1

theorem exponentPart?_of_ends {rest : List Char} (h : Ends rest) :
    exponentPart? rest = some (0, rest) := by
  cases rest with
  | nil => rfl
  | cons c rest =>
    obtain ⟨-, -, he, hE⟩ := h.not_isNumberChar
    simp [exponentPart?, he, hE]

theorem le_ofDigitChars (cs : List Char) (n : Nat) : n ≤ Nat.ofDigitChars 10 cs n := by
  induction cs generalizing n with
  | nil => exact Nat.le_refl _
  | cons c cs ih =>
    have hnext := ih (10 * n + (c.toNat - '0'.toNat))
    rw [Nat.ofDigitChars_cons]
    omega

/-- Digits of a number of 64 bits are used to the last one. -/
theorem absorb_eq {cs : List Char} {n : Nat} (h : Nat.ofDigitChars 10 cs n < twoTo 64) :
    absorb n cs = (Nat.ofDigitChars 10 cs n, []) := by
  induction cs generalizing n with
  | nil => rfl
  | cons c cs ih =>
    rw [Nat.ofDigitChars_cons] at h ⊢
    have hnext : 10 * n + (c.toNat - '0'.toNat) < twoTo 64 :=
      Nat.lt_of_le_of_lt (le_ofDigitChars cs _) h
    rw [absorb]
    simp only [if_pos hnext]
    exact ih h

theorem absorb_toDigits {n : Nat} (h : n < twoTo 64) :
    absorb 0 (Nat.toDigits 10 n) = (n, []) := by
  have hvalue := Nat.ofDigitChars_ten_toDigits (n := n)
  rw [absorb_eq (by rw [hvalue]; exact h), hvalue]

theorem exists_toDigits (n : Nat) : ∃ c cs, Nat.toDigits 10 n = c :: cs ∧ c.isDigit = true := by
  obtain ⟨c, cs, hcs⟩ := List.exists_cons_of_ne_nil (Nat.toDigits_ne_nil (n := n) (b := 10))
  exact ⟨c, cs, hcs, isDigit_of_mem_toDigits (hcs ▸ List.mem_cons_self)⟩

theorem number?_toDigits {n : Nat} (hn : n < twoTo 64) {rest : List Char} (h : Ends rest) :
    number? (Nat.toDigits 10 n ++ rest) = some (.int n, rest) := by
  obtain ⟨c, cs, hcs, hdigit⟩ := exists_toDigits n
  rw [number?]
  · simp [wholePart?_toDigits n h, fractionPart?_of_ends h, exponentPart?_of_ends h,
      absorb_toDigits hn]
  · intro rest' heq
    rw [hcs, List.cons_append] at heq
    rw [(List.cons.inj heq).1] at hdigit
    contradiction

theorem number?_minus_toDigits {n : Nat} (hn : n ≠ 0) (hbound : n ≤ twoTo 63) {rest : List Char}
    (h : Ends rest) :
    number? ('-' :: (Nat.toDigits 10 n ++ rest)) = some (.int (-n), rest) := by
  have hn' : n < twoTo 64 := Nat.lt_of_le_of_lt hbound (by decide)
  simp [number?, wholePart?_toDigits n h, fractionPart?_of_ends h, exponentPart?_of_ends h,
    absorb_toDigits hn', hn, hbound]

/-! ## Values -/

theorem skipGap_append {gap : List Char} (h : gap.all isGap = true) (cs : List Char) :
    skipGap (gap ++ cs) = skipGap cs :=
  List.dropWhile_append_of_pos (List.all_eq_true.mp h)

theorem skipGap_cons {c : Char} (h : isGap c = false) (cs : List Char) :
    skipGap (c :: cs) = c :: cs := by
  simp [skipGap, h]

@[simp] theorem skipGap_skipGap (cs : List Char) : skipGap (skipGap cs) = skipGap cs :=
  List.dropWhile_idempotent _ _

theorem all_isGap_newline (level : Nat) : (newline level).all isGap = true := by
  simp [newline, isGap]

@[simp] theorem skipGap_newline (level : Nat) (cs : List Char) :
    skipGap (newline level ++ cs) = skipGap cs :=
  skipGap_append (all_isGap_newline level) cs

@[simp] theorem value?_skipGap (fuel depth : Nat) (cs : List Char) :
    value? fuel depth (skipGap cs) = value? fuel depth cs := by
  cases fuel with
  | zero => rw [value?, value?]
  | succ fuel => simp only [value?, skipGap_skipGap]

@[simp] theorem value?_newline (fuel depth level : Nat) (cs : List Char) :
    value? fuel depth (newline level ++ cs) = value? fuel depth cs := by
  rw [← value?_skipGap, skipGap_newline, value?_skipGap]

/-- No value begins with a closing bracket. -/
theorem skipGap_ne_bracket {fuel depth : Nat} {cs : List Char} (h : value? fuel depth cs ≠ none)
    (rest : List Char) : skipGap cs ≠ ']' :: rest := by
  intro hgap
  have hnumber : number? (']' :: rest) = none := by
    simp [number?, wholePart?, List.span_eq_takeWhile_dropWhile]
  rw [← value?_skipGap, hgap] at h
  cases fuel with
  | zero => exact h (by rw [value?])
  | succ fuel => exact h (by simp [value?, skipGap_cons, isGap, hnumber])

/-- A value is read back from its text at any indentation, with anything behind it that does not go
on with a number. -/
def ReadsBack (depth : Nat) (v : Json) : Prop :=
  ∀ fuel level rest, (prettyChars level v).length < fuel → Ends rest →
    value? fuel depth (prettyChars level v ++ rest) = some (v, rest)

theorem readsBack_null (depth : Nat) : ReadsBack depth .null := by
  intro fuel level rest hfuel _
  obtain ⟨k, rfl⟩ := Nat.exists_eq_add_of_lt hfuel
  simp [prettyChars, value?, skipGap_cons, isGap, word?]

theorem readsBack_bool (depth : Nat) (b : Bool) : ReadsBack depth (.bool b) := by
  intro fuel level rest hfuel _
  obtain ⟨k, rfl⟩ := Nat.exists_eq_add_of_lt hfuel
  cases b with
  | false => simp [prettyChars, ofBool, value?, skipGap_cons, isGap, word?]
  | true => simp [prettyChars, ofBool, value?, skipGap_cons, isGap, word?]

theorem readsBack_str (depth : Nat) (s : String) : ReadsBack depth (.str s) := by
  intro fuel level rest hfuel _
  obtain ⟨k, rfl⟩ := Nat.exists_eq_add_of_lt hfuel
  rw [prettyChars, quote_append]
  simp [value?, skipGap_cons, isGap]

/-- A digit or a minus sign begins a number. -/
theorem value?_of_sign {c : Char} (h : c.isDigit = true ∨ c = '-') (fuel depth : Nat)
    (cs : List Char) : value? (fuel + 1) depth (c :: cs) = number? (c :: cs) := by
  have hother {d : Char} (hdigit : d.isDigit = false) (hminus : d ≠ '-') : c ≠ d := by
    rintro rfl
    rw [hdigit] at h
    exact hminus (h.resolve_left Bool.false_ne_true)
  have hgap : isGap c = false := by simp [isGap, hother]
  rw [value?, skipGap_cons hgap]
  -- in all cases but the last the first character would be another one
  split
  all_goals simp_all

theorem readsBack_int (depth : Nat) {i : Int} (hlow : -(twoTo 63 : Int) ≤ i) (hhigh : i < twoTo 64) :
    ReadsBack depth (.int i) := by
  intro fuel level rest hfuel hends
  obtain ⟨k, rfl⟩ := Nat.exists_eq_add_of_lt hfuel
  rw [prettyChars]
  cases i with
  | ofNat n =>
    obtain ⟨c, cs, hcs, hdigit⟩ := exists_toDigits n
    have hnumber := number?_toDigits (Int.ofNat_lt.mp hhigh) hends
    rw [hcs, List.cons_append] at hnumber
    rw [ofInt, hcs, List.cons_append, value?_of_sign (.inl hdigit), hnumber]
    rfl
  | negSucc n =>
    have hbound : n + 1 ≤ twoTo 63 := by omega
    rw [ofInt, List.cons_append, value?_of_sign (.inr rfl),
      number?_minus_toDigits (Nat.succ_ne_zero n) hbound hends]
    rfl

/-! ## Arrays and objects -/

theorem ends_prettyItems (level : Nat) (vs : List Json) (rest : List Char) :
    Ends (prettyItems level vs ++ rest) := by
  cases vs with
  | nil => exact ends_cons (by decide) _
  | cons v vs => exact ends_cons (by decide) _

theorem items?_prettyItems {depth : Nat} {vs : List Json} (h : ∀ v ∈ vs, ReadsBack depth v)
    (fuel level : Nat) (rest : List Char) (hfuel : (prettyItems level vs).length < fuel) :
    items? fuel depth (prettyItems level vs ++ rest) = some (vs, rest) := by
  induction vs generalizing fuel with
  | nil =>
    obtain ⟨k, rfl⟩ := Nat.exists_eq_add_of_lt hfuel
    rw [prettyItems, List.append_assoc, items?, skipGap_newline]
    simp [skipGap_cons, isGap]
  | cons v vs ih =>
    obtain ⟨fuel, rfl⟩ := Nat.exists_eq_succ_of_ne_zero (Nat.ne_zero_of_lt hfuel)
    simp only [prettyItems, List.length_append, List.length_cons] at hfuel
    have hv := h v List.mem_cons_self fuel (level + 1) (prettyItems level vs ++ rest) (by omega)
      (ends_prettyItems level vs rest)
    have hvs := ih (fun w hw => h w (List.mem_cons_of_mem v hw)) fuel (by omega)
    rw [items?, prettyItems]
    simp [skipGap_cons, isGap, hv, hvs]

theorem readsBack_arr {depth : Nat} {vs : List Json} (h : ∀ v ∈ vs, ReadsBack depth v) :
    ReadsBack (depth + 1) (.arr vs) := by
  intro fuel level rest hfuel hends
  obtain ⟨fuel, rfl⟩ := Nat.exists_eq_succ_of_ne_zero (Nat.ne_zero_of_lt hfuel)
  cases vs with
  | nil => simp [prettyChars, value?, skipGap_cons, isGap]
  | cons v vs =>
    simp only [prettyChars, List.length_append, List.length_cons] at hfuel
    have hv := h v List.mem_cons_self fuel (level + 1) (prettyItems level vs ++ rest) (by omega)
      (ends_prettyItems level vs rest)
    have hvs := items?_prettyItems (fun w hw => h w (List.mem_cons_of_mem v hw)) fuel level rest
      (by omega)
    -- the array is not taken for an empty one
    have hopen := skipGap_ne_bracket (hv ▸ Option.some_ne_none _)
    rw [value?, prettyChars]
    simp [skipGap_cons, isGap, hv, hvs]

theorem entry?_pretty {depth : Nat} {v : Json} (h : ReadsBack depth v) (key : String)
    (fuel level : Nat) {rest : List Char} (hfuel : (prettyChars level v).length + 1 < fuel)
    (hends : Ends rest) :
    entry? fuel depth (quote key.toList ++ ':' :: ' ' :: (prettyChars level v ++ rest)) =
      some ((key, v), rest) := by
  obtain ⟨fuel, rfl⟩ := Nat.exists_eq_succ_of_ne_zero (Nat.ne_zero_of_lt hfuel)
  have hv := h fuel level rest (Nat.succ_lt_succ_iff.mp hfuel) hends
  have hspace : value? fuel depth (' ' :: (prettyChars level v ++ rest)) = some (v, rest) := by
    rw [← value?_skipGap, ← List.singleton_append, skipGap_append rfl, value?_skipGap, hv]
  rw [quote_append, entry?]
  simp [skipGap_cons, isGap, hspace]

theorem ends_prettyMembers (level : Nat) (ms : List (String × Json)) (rest : List Char) :
    Ends (prettyMembers level ms ++ rest) := by
  cases ms with
  | nil => exact ends_cons (by decide) _
  | cons m ms => exact ends_cons (by decide) _

@[simp] theorem entry?_newline (fuel depth level : Nat) (cs : List Char) :
    entry? fuel depth (newline level ++ cs) = entry? fuel depth cs := by
  cases fuel with
  | zero =>
    unfold entry?
    rfl
  | succ fuel => simp only [skipGap_newline, entry?]

theorem members?_prettyMembers {depth : Nat} {ms : List (String × Json)}
    (h : ∀ m ∈ ms, ReadsBack depth m.2) (fuel level : Nat) (rest : List Char)
    (hfuel : (prettyMembers level ms).length < fuel) :
    members? fuel depth (prettyMembers level ms ++ rest) = some (ms, rest) := by
  induction ms generalizing fuel with
  | nil =>
    obtain ⟨k, rfl⟩ := Nat.exists_eq_add_of_lt hfuel
    rw [prettyMembers, List.append_assoc, members?, skipGap_newline]
    simp [skipGap_cons, isGap]
  | cons m ms ih =>
    obtain ⟨key, v⟩ := m
    obtain ⟨fuel, rfl⟩ := Nat.exists_eq_succ_of_ne_zero (Nat.ne_zero_of_lt hfuel)
    simp only [prettyMembers, List.length_append, List.length_cons] at hfuel
    have hv : ReadsBack depth v := h (key, v) List.mem_cons_self
    have hentry := entry?_pretty hv key fuel (level + 1) (by omega)
      (ends_prettyMembers level ms rest)
    have hms := ih (fun n hn => h n (List.mem_cons_of_mem _ hn)) fuel (by omega)
    rw [quote_append] at hentry
    rw [members?, prettyMembers]
    simp [skipGap_cons, isGap, hentry, hms]

theorem readsBack_obj {depth : Nat} {ms : List (String × Json)}
    (h : ∀ m ∈ ms, ReadsBack depth m.2) : ReadsBack (depth + 1) (.obj ms) := by
  intro fuel level rest hfuel hends
  obtain ⟨fuel, rfl⟩ := Nat.exists_eq_succ_of_ne_zero (Nat.ne_zero_of_lt hfuel)
  cases ms with
  | nil => simp [prettyChars, value?, skipGap_cons, isGap]
  | cons m ms =>
    obtain ⟨key, v⟩ := m
    simp only [prettyChars, List.length_append, List.length_cons] at hfuel
    have hv : ReadsBack depth v := h (key, v) List.mem_cons_self
    have hentry := entry?_pretty hv key fuel (level + 1) (by omega)
      (ends_prettyMembers level ms rest)
    have hms := members?_prettyMembers (fun n hn => h n (List.mem_cons_of_mem _ hn)) fuel level rest
      (by omega)
    rw [quote_append] at hentry
    rw [value?, prettyChars]
    simp [skipGap_cons, isGap, hentry, hms]

/-! ## All of it -/

/-- A value without doubles, with numbers of 64 bits, that nests at most `depth` deep. -/
inductive Exact : Nat → Json → Prop where
  | null {depth : Nat} : Exact depth .null
  | bool {depth : Nat} {b : Bool} : Exact depth (.bool b)
  | int {depth : Nat} {i : Int} : -(twoTo 63 : Int) ≤ i → i < twoTo 64 → Exact depth (.int i)
  | str {depth : Nat} {s : String} : Exact depth (.str s)
  | arr {depth : Nat} {vs : List Json} : (∀ v ∈ vs, Exact depth v) → Exact (depth + 1) (.arr vs)
  | obj {depth : Nat} {ms : List (String × Json)} : (∀ m ∈ ms, Exact depth m.2) →
      Exact (depth + 1) (.obj ms)

theorem Exact.readsBack {depth : Nat} {v : Json} (h : Exact depth v) : ReadsBack depth v := by
  induction h with
  | null => exact readsBack_null _
  | bool => exact readsBack_bool _ _
  | int hlow hhigh => exact readsBack_int _ hlow hhigh
  | str => exact readsBack_str _ _
  | arr _ ih => exact readsBack_arr ih
  | obj _ ih => exact readsBack_obj ih

theorem ends_of_isGap {gap : List Char} (h : gap.all isGap = true) : Ends gap := by
  intro c hc
  have hgap := List.all_eq_true.mp h c (List.mem_of_mem_head? hc)
  simp only [isGap, Bool.or_eq_true, beq_iff_eq] at hgap
  rcases hgap with ((rfl | rfl) | rfl) | rfl
  all_goals decide

/-- Reading undoes writing, with blanks behind the text or without. -/
theorem parse?_pretty {v : Json} (h : Exact depthLimit v) (gap : List Char)
    (hgap : gap.all isGap = true) : parse? (v.pretty.toList ++ gap) = some v := by
  have hread := h.readsBack (2 * (prettyChars 0 v ++ gap).length + 2) 0 gap
    (by rw [List.length_append]; omega) (ends_of_isGap hgap)
  have hblank : skipGap gap = [] := by simpa [skipGap] using hgap
  rw [parse?, pretty, String.toList_ofList, hread]
  simp [hblank]

end AppConfig.Json
