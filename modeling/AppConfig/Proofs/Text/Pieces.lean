import AppConfig.Text.Digits
import AppConfig.Text.Split
import AppConfig.Text.White

/-!
# AppConfig.Proofs.Text.Pieces

The pieces of a line: white space around them is trimmed, a separator cuts them apart, and a number
that is written in decimal digits is read back. Nothing else is read as a number
(`readBelow?_eq_some_iff`).
-/

namespace AppConfig.Text

/-! ## White space -/

theorem isBlank_append (cs ds : List Char) : isBlank (cs ++ ds) = (isBlank cs && isBlank ds) :=
  List.all_append

theorem isBlank_eq_false {c : Char} {cs : List Char} (h : c ∈ cs) (hc : isWhite c = false) :
    isBlank cs = false := by
  simp only [isBlank, List.all_eq_false]
  exact ⟨c, h, by simp [hc]⟩

theorem not_mem_of_isBlank {c : Char} {space : List Char} (hc : isWhite c = false)
    (h : isBlank space = true) : c ∉ space := by
  intro hm
  have hwhite := List.all_eq_true.mp h c hm
  rw [hc] at hwhite
  contradiction

theorem colon_not_mem_of_isBlank {space : List Char} (h : isBlank space = true) :
    ':' ∉ space :=
  not_mem_of_isBlank rfl h

theorem trimEnd_eq (cs : List Char) : trimEnd cs = (trimStart cs.reverse).reverse := rfl

theorem trimStart_append {ws : List Char} (h : isBlank ws = true) (cs : List Char) :
    trimStart (ws ++ cs) = trimStart cs :=
  List.dropWhile_append_of_pos (List.all_eq_true.mp h)

theorem trimEnd_append {ws : List Char} (h : isBlank ws = true) (cs : List Char) :
    trimEnd (cs ++ ws) = trimEnd cs := by
  have hr : isBlank ws.reverse = true := by rw [isBlank, List.all_reverse]; exact h
  rw [trimEnd_eq, List.reverse_append, trimStart_append hr, ← trimEnd_eq]

theorem trim_append_left {ws : List Char} (h : isBlank ws = true) (cs : List Char) :
    trim (ws ++ cs) = trim cs := by
  rw [trim, trimStart_append h, ← trim]

theorem trim_of_isBlank {space : List Char} (h : isBlank space = true) : trim space = [] := by
  have := trim_append_left h []
  rwa [List.append_nil] at this

theorem trim_append_right {ws : List Char} (h : isBlank ws = true) (cs : List Char) :
    trim (cs ++ ws) = trim cs := by
  rw [trim, trimStart, List.dropWhile_append]
  split
  · -- nothing is left of `cs`, so nothing is left at all
    rename_i he
    rw [List.isEmpty_iff] at he
    have hws : ws.dropWhile isWhite = [] := by simpa [trimStart] using trimStart_append h []
    rw [hws, trim, trimStart, he]
  · rw [trimEnd_append h, trim, trimStart]

theorem trimStart_eq_self {cs : List Char} (h : ∀ c ∈ cs.head?, isWhite c = false) :
    trimStart cs = cs := by
  cases cs with
  | nil => rfl
  | cons c cs => simp [trimStart, h c rfl]

theorem dropBom_eq_self {cs : List Char} (h : cs.head? ≠ some bom) : dropBom cs = cs := by
  cases cs with
  | nil => rfl
  | cons c cs =>
    have hc : c ≠ bom := by simpa using h
    rw [dropBom, if_neg hc]

/-- A text that neither begins nor ends with white space is trimmed already. -/
theorem trim_eq_self {cs : List Char} (hfirst : ∀ c ∈ cs.head?, isWhite c = false)
    (hlast : ∀ c ∈ cs.getLast?, isWhite c = false) : trim cs = cs := by
  have hr : ∀ c ∈ cs.reverse.head?, isWhite c = false := by rwa [List.head?_reverse]
  rw [trim, trimStart_eq_self hfirst, trimEnd_eq, trimStart_eq_self hr, List.reverse_reverse]

/-- What trimming takes away is white space. -/
theorem exists_trim (cs : List Char) :
    ∃ before behind, isBlank before = true ∧ isBlank behind = true ∧
      cs = before ++ (trim cs ++ behind) := by
  have hstart : cs.takeWhile isWhite ++ trimStart cs = cs := List.takeWhile_append_dropWhile
  have hend : trimEnd (trimStart cs) ++ ((trimStart cs).reverse.takeWhile isWhite).reverse =
      trimStart cs := by
    rw [trimEnd, ← List.reverse_append, List.takeWhile_append_dropWhile, List.reverse_reverse]
  refine ⟨cs.takeWhile isWhite, ((trimStart cs).reverse.takeWhile isWhite).reverse,
    List.all_takeWhile, ?_, ?_⟩
  · rw [isBlank, List.all_reverse, List.all_takeWhile]
  · rw [trim, hend, hstart]

/-! ## Separators -/

theorem cut?_append {α : Type} [DecidableEq α] {sep : α} {before : List α} (h : sep ∉ before)
    (behind : List α) : cut? sep (before ++ sep :: behind) = some (before, behind) := by
  induction before with
  | nil => simp [cut?]
  | cons a as ih =>
    rw [List.mem_cons, not_or] at h
    rw [List.cons_append, cut?, if_neg (Ne.symm h.1), ih h.2]
    rfl

theorem cut?_eq_some_iff {α : Type} [DecidableEq α] {sep : α} {as before behind : List α} :
    cut? sep as = some (before, behind) ↔ as = before ++ sep :: behind ∧ sep ∉ before := by
  constructor
  · intro h
    induction as generalizing before with
    | nil => contradiction
    | cons a as ih =>
      rw [cut?] at h
      split at h
      · rename_i ha
        cases h
        exact ⟨by rw [ha, List.nil_append], List.not_mem_nil⟩
      · rename_i ha
        obtain ⟨⟨front, back⟩, hcut, hpair⟩ := Option.map_eq_some_iff.mp h
        cases hpair
        obtain ⟨rfl, hfront⟩ := ih hcut
        exact ⟨rfl, by rw [List.mem_cons, not_or]; exact ⟨Ne.symm ha, hfront⟩⟩
  · rintro ⟨rfl, h⟩
    exact cut?_append h behind

theorem cut?_eq_none_iff {α : Type} [DecidableEq α] {sep : α} {as : List α} :
    cut? sep as = none ↔ sep ∉ as := by
  induction as with
  | nil => simp [cut?]
  | cons a as ih =>
    rw [cut?, List.mem_cons, not_or]
    split
    · rename_i ha
      simp [ha]
    · rename_i ha
      simp [ih, Ne.symm ha]

theorem split_ne_nil {α : Type} [DecidableEq α] (sep : α) (as : List α) : split sep as ≠ [] := by
  cases as with
  | nil => simp [split]
  | cons a as =>
    rw [split]
    split
    · simp
    · split <;> simp

/-- A separator cuts the parts in front of it from those behind it. -/
theorem split_append {α : Type} [DecidableEq α] (sep : α) (as bs : List α) :
    split sep (as ++ sep :: bs) = split sep as ++ split sep bs := by
  induction as with
  | nil => simp [split]
  | cons a as ih =>
    by_cases ha : a = sep
    · simp [split, ha, ih]
    · obtain ⟨p, ps, hps⟩ := List.exists_cons_of_ne_nil (split_ne_nil sep as)
      simp [split, ha, ih, hps]

theorem split_of_not_mem {α : Type} [DecidableEq α] {sep : α} {as : List α} (h : sep ∉ as) :
    split sep as = [as] := by
  induction as with
  | nil => rfl
  | cons a as ih =>
    rw [List.mem_cons, not_or] at h
    rw [split, if_neg (Ne.symm h.1), ih h.2]

/-! ## Decimal numbers -/

theorem digitBelow?_of_isDigit {c : Char} (h : c.isDigit = true) :
    digitBelow? 10 c = some (c.toNat - '0'.toNat) := by
  have hc := Char.isDigit_iff_toNat.mp h
  have hle : '0' ≤ c ∧ c ≤ '9' := by
    simpa [Char.le_def, UInt32.le_iff_toNat_le] using hc
  have hlt : c.toNat - '0'.toNat < 10 := by
    simp only [Char.reduceToNat] at hc ⊢
    omega
  simp only [digitBelow?, digitValue?, if_pos hle, if_pos hlt]

theorem isWhite_of_isDigit {c : Char} (h : c.isDigit = true) : isWhite c = false := by
  have hc := Char.isDigit_iff_toNat.mp h
  simp only [Char.reduceToNat] at hc
  simp only [isWhite, Bool.or_eq_false_iff, Bool.and_eq_false_iff, decide_eq_false_iff_not,
    beq_eq_false_iff_ne]
  omega

theorem readDigits_of_isDigit {cs : List Char} (h : ∀ c ∈ cs, c.isDigit = true) (acc : Nat) :
    readDigits 10 acc cs = some (Nat.ofDigitChars 10 cs acc) := by
  induction cs generalizing acc with
  | nil => rfl
  | cons c cs ih =>
    rw [readDigits, digitBelow?_of_isDigit (h c (by simp)), Nat.ofDigitChars_cons]
    exact ih (fun d hd => h d (by simp [hd])) _

/-- A number that fits is read back from its digits. -/
theorem readBelow?_toDigits {n bound : Nat} (h : n < bound) :
    readBelow? bound (Nat.toDigits 10 n) = some n := by
  obtain ⟨c, cs, hcs⟩ := List.exists_cons_of_ne_nil (Nat.toDigits_ne_nil (n := n) (b := 10))
  have hd (d : Char) (hd : d ∈ Nat.toDigits 10 n) : d.isDigit = true :=
    Nat.isDigit_of_mem_toDigits (by decide) (by decide) hd
  have hdigits : readDigits 10 0 (Nat.toDigits 10 n) = some n := by
    rw [readDigits_of_isDigit hd, Nat.ofDigitChars_ten_toDigits]
  have hplus : c ≠ '+' := by
    intro hc
    have := hd c (by simp [hcs])
    simp [hc] at this
  rw [hcs] at hdigits ⊢
  unfold readBelow?
  split
  · rename_i heq
    exact absurd (List.cons.inj heq).1 hplus
  · simp only [readNat?, hdigits, if_pos h]

theorem isDigit_of_digitBelow? {c : Char} {d : Nat} (h : digitBelow? 10 c = some d) :
    c.isDigit = true := by
  rw [Char.isDigit_iff_toNat]
  simp only [digitBelow?, digitValue?, Char.reduceToNat] at h
  split at h
  · rename_i value hvalue
    split at hvalue
    · rename_i hc
      simpa [Char.le_def, UInt32.le_iff_toNat_le] using hc
    · -- the letters stand for ten and more
      have hten : 10 ≤ value := by
        split at hvalue
        · cases hvalue
          omega
        · split at hvalue
          · cases hvalue
            omega
          · contradiction
      rw [if_neg (by omega)] at h
      contradiction
  · contradiction

theorem isDigit_of_readDigits {cs : List Char} {acc n : Nat} (h : readDigits 10 acc cs = some n) :
    ∀ c ∈ cs, c.isDigit = true := by
  induction cs generalizing acc with
  | nil => simp
  | cons c cs ih =>
    rw [readDigits] at h
    split at h
    · rename_i d hd
      intro b hb
      rcases List.mem_cons.mp hb with rfl | hb
      · exact isDigit_of_digitBelow? hd
      · exact ih h b hb
    · contradiction

/-- A number below a bound as it is written: a plus sign or none, then one decimal digit or more. -/
def Numeral (bound : Nat) (cs : List Char) (n : Nat) : Prop :=
  ∃ digits, (cs = digits ∨ cs = '+' :: digits) ∧ digits ≠ [] ∧
    (∀ c ∈ digits, c.isDigit = true) ∧ n = Nat.ofDigitChars 10 digits 0 ∧ n < bound

theorem readNat?_eq_some_iff {cs : List Char} {n : Nat} :
    readNat? 10 cs = some n ↔
      cs ≠ [] ∧ (∀ c ∈ cs, c.isDigit = true) ∧ n = Nat.ofDigitChars 10 cs 0 := by
  cases cs with
  | nil => simp [readNat?]
  | cons c cs =>
    rw [readNat?]
    constructor
    · intro h
      have hdigits := isDigit_of_readDigits h
      rw [readDigits_of_isDigit hdigits] at h
      exact ⟨List.cons_ne_nil c cs, hdigits, (Option.some.inj h).symm⟩
    · rintro ⟨-, hdigits, rfl⟩
      exact readDigits_of_isDigit hdigits 0

/-- A text without one leading plus sign. -/
def dropPlus : List Char → List Char
  | '+' :: rest => rest
  | rest => rest

theorem dropPlus_eq_self {cs : List Char} (h : ∀ rest, cs ≠ '+' :: rest) : dropPlus cs = cs :=
  dropPlus.eq_2 cs h

theorem readBelow?_eq_filter (bound : Nat) (cs : List Char) :
    readBelow? bound cs = (readNat? 10 (dropPlus cs)).filter (· < bound) := by
  unfold readBelow?
  split
  · rename_i rest
    rw [dropPlus]
    dsimp only
    cases readNat? 10 rest with
    | none => rfl
    | some n => simp [Option.filter]
  · rename_i hplus
    rw [dropPlus_eq_self hplus]
    dsimp only
    cases readNat? 10 cs with
    | none => rfl
    | some n => simp [Option.filter]

/-- The numbers that are read are those that are written. -/
theorem readBelow?_eq_some_iff {bound : Nat} {cs : List Char} {n : Nat} :
    readBelow? bound cs = some n ↔ Numeral bound cs n := by
  simp only [readBelow?_eq_filter, Option.filter_eq_some_iff, readNat?_eq_some_iff,
    decide_eq_true_iff, and_assoc]
  constructor
  · rintro ⟨hne, hdigits, hn⟩
    refine ⟨dropPlus cs, ?_, hne, hdigits, hn⟩
    unfold dropPlus
    split
    · exact .inr rfl
    · exact .inl rfl
  · rintro ⟨digits, rfl | rfl, hne, hdigits, hn⟩
    · -- a digit is no plus sign, so nothing is taken off
      have hplus : ∀ rest, cs ≠ '+' :: rest := by
        rintro rest rfl
        have hdigit := hdigits '+' List.mem_cons_self
        contradiction
      rw [dropPlus_eq_self hplus]
      exact ⟨hne, hdigits, hn⟩
    · exact ⟨hne, hdigits, hn⟩

end AppConfig.Text
