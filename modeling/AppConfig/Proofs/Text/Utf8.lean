import AppConfig.Text.Utf8

/-!
# AppConfig.Proofs.Text.Utf8

Decoding undoes encoding. One step of the decoder reads exactly the bytes of one character,
whatever follows them (`decodeStep_utf8Char`); so the bytes of a text are UTF-8 throughout, and
both decoders give the text back. Nothing else decodes (`utf8?_eq_some_iff`).
-/

namespace AppConfig.Text

theorem toNat_ofNat_of_lt {n : Nat} (h : n < 256) : (UInt8.ofNat n).toNat = n := by
  rw [UInt8.toNat_ofNat']
  exact Nat.mod_eq_of_lt h

/-- A character is no surrogate, and not beyond the last code point. -/
theorem toNat_lt (c : Char) : c.toNat < 0xD800 ∨ (0xDFFF < c.toNat ∧ c.toNat < 0x110000) :=
  c.valid

theorem decodeStep_one {c : Char} (h : c.toNat < 0x80) (rest : Bytes) :
    decodeStep (UInt8.ofNat c.toNat) rest = (some c, 1) := by
  simp only [decodeStep, toNat_ofNat_of_lt (show c.toNat < 256 by omega), h, if_true,
    Char.ofNat_toNat]

theorem decodeStep_two {c : Char} (h : 0x80 ≤ c.toNat) (h' : c.toNat < 0x800) (rest : Bytes) :
    decodeStep (UInt8.ofNat (0xC0 + c.toNat / 0x40))
      (UInt8.ofNat (0x80 + c.toNat % 0x40) :: rest) = (some c, 2) := by
  have ha := toNat_ofNat_of_lt (show 0xC0 + c.toNat / 0x40 < 256 by omega)
  have hb := toNat_ofNat_of_lt (show 0x80 + c.toNat % 0x40 < 256 by omega)
  have hlead : ¬ 0xC0 + c.toNat / 0x40 < 0x80 := by omega
  have htwo : 0xC2 ≤ 0xC0 + c.toNat / 0x40 ∧ 0xC0 + c.toNat / 0x40 < 0xE0 := by omega
  have htail : 0x80 ≤ 0x80 + c.toNat % 0x40 ∧ 0x80 + c.toNat % 0x40 < 0xC0 := by omega
  have hval : (0xC0 + c.toNat / 0x40 - 0xC0) * 0x40 + (0x80 + c.toNat % 0x40 - 0x80) = c.toNat := by
    omega
  simp only [decodeStep, isContinuation, ha, hb, if_neg hlead, htwo, htail, hval, decide_true,
    Bool.and_self, if_true, Char.ofNat_toNat]

/-- A second byte may follow if it continues a character and makes no overlong form, no surrogate
and no code point beyond the last one. -/
theorem mayFollow_of {first second : UInt8} (h : 0x80 ≤ second.toNat ∧ second.toNat < 0xC0)
    (hE0 : first.toNat = 0xE0 → 0xA0 ≤ second.toNat)
    (hED : first.toNat = 0xED → second.toNat < 0xA0)
    (hF0 : first.toNat = 0xF0 → 0x90 ≤ second.toNat)
    (hF4 : first.toNat = 0xF4 → second.toNat < 0x90) : mayFollow first second = true := by
  simp only [mayFollow, beq_iff_eq]
  split
  · rename_i ha; simp [hE0 ha, h.2]
  · split
    · rename_i ha; simp [h.1, hED ha]
    · split
      · rename_i ha; simp [hF0 ha, h.2]
      · split
        · rename_i ha; simp [h.1, hF4 ha]
        · simp [h]

theorem decodeStep_three {c : Char} (h : 0x800 ≤ c.toNat) (h' : c.toNat < 0x10000)
    (rest : Bytes) :
    decodeStep (UInt8.ofNat (0xE0 + c.toNat / 0x1000))
      (UInt8.ofNat (0x80 + c.toNat / 0x40 % 0x40) :: UInt8.ofNat (0x80 + c.toNat % 0x40) :: rest) =
      (some c, 3) := by
  have ha := toNat_ofNat_of_lt (show 0xE0 + c.toNat / 0x1000 < 256 by omega)
  have hb := toNat_ofNat_of_lt (show 0x80 + c.toNat / 0x40 % 0x40 < 256 by omega)
  have hc := toNat_ofNat_of_lt (show 0x80 + c.toNat % 0x40 < 256 by omega)
  have hchar := toNat_lt c
  have hfollow : mayFollow (UInt8.ofNat (0xE0 + c.toNat / 0x1000))
      (UInt8.ofNat (0x80 + c.toNat / 0x40 % 0x40)) = true := by
    refine mayFollow_of ?_ ?_ ?_ ?_ ?_ <;> simp only [ha, hb] <;> omega
  have hlead : ¬ 0xE0 + c.toNat / 0x1000 < 0x80 := by omega
  have htwo : ¬ 0xE0 + c.toNat / 0x1000 < 0xE0 := by omega
  have hthree : 0xE0 ≤ 0xE0 + c.toNat / 0x1000 ∧ 0xE0 + c.toNat / 0x1000 < 0xF0 := by omega
  have htail : 0x80 ≤ 0x80 + c.toNat % 0x40 ∧ 0x80 + c.toNat % 0x40 < 0xC0 := by omega
  have hval : (0xE0 + c.toNat / 0x1000 - 0xE0) * 0x1000 +
      (0x80 + c.toNat / 0x40 % 0x40 - 0x80) * 0x40 + (0x80 + c.toNat % 0x40 - 0x80) = c.toNat := by
    omega
  simp only [decodeStep, isContinuation, hfollow, ha, hb, hc, if_neg hlead, htwo, hthree, htail,
    hval, decide_true, decide_false, Bool.and_self, Bool.and_false, Bool.false_eq_true, if_true,
    if_false, Char.ofNat_toNat]

theorem decodeStep_four {c : Char} (h : 0x10000 ≤ c.toNat) (rest : Bytes) :
    decodeStep (UInt8.ofNat (0xF0 + c.toNat / 0x40000))
      (UInt8.ofNat (0x80 + c.toNat / 0x1000 % 0x40) ::
        UInt8.ofNat (0x80 + c.toNat / 0x40 % 0x40) :: UInt8.ofNat (0x80 + c.toNat % 0x40) :: rest) =
      (some c, 4) := by
  have hchar := toNat_lt c
  have ha := toNat_ofNat_of_lt (show 0xF0 + c.toNat / 0x40000 < 256 by omega)
  have hb := toNat_ofNat_of_lt (show 0x80 + c.toNat / 0x1000 % 0x40 < 256 by omega)
  have hc := toNat_ofNat_of_lt (show 0x80 + c.toNat / 0x40 % 0x40 < 256 by omega)
  have hd := toNat_ofNat_of_lt (show 0x80 + c.toNat % 0x40 < 256 by omega)
  have hfollow : mayFollow (UInt8.ofNat (0xF0 + c.toNat / 0x40000))
      (UInt8.ofNat (0x80 + c.toNat / 0x1000 % 0x40)) = true := by
    refine mayFollow_of ?_ ?_ ?_ ?_ ?_ <;> simp only [ha, hb] <;> omega
  have hlead : ¬ 0xF0 + c.toNat / 0x40000 < 0x80 := by omega
  have htwo : ¬ 0xF0 + c.toNat / 0x40000 < 0xE0 := by omega
  have hthree : ¬ 0xF0 + c.toNat / 0x40000 < 0xF0 := by omega
  have hfour : 0xF0 ≤ 0xF0 + c.toNat / 0x40000 ∧ 0xF0 + c.toNat / 0x40000 < 0xF5 := by omega
  have htail : 0x80 ≤ 0x80 + c.toNat / 0x40 % 0x40 ∧ 0x80 + c.toNat / 0x40 % 0x40 < 0xC0 := by
    omega
  have htail' : 0x80 ≤ 0x80 + c.toNat % 0x40 ∧ 0x80 + c.toNat % 0x40 < 0xC0 := by omega
  have hval : (0xF0 + c.toNat / 0x40000 - 0xF0) * 0x40000 +
      (0x80 + c.toNat / 0x1000 % 0x40 - 0x80) * 0x1000 +
      (0x80 + c.toNat / 0x40 % 0x40 - 0x80) * 0x40 + (0x80 + c.toNat % 0x40 - 0x80) = c.toNat := by
    omega
  simp only [decodeStep, isContinuation, hfollow, ha, hb, hc, hd, if_neg hlead, htwo, hthree,
    hfour, htail, htail', hval, decide_true, decide_false, Bool.and_self, Bool.and_false,
    Bool.false_eq_true, if_true, if_false, Char.ofNat_toNat]

/-- One step of the decoder reads the bytes of one character. -/
theorem decodeStep_utf8Char (c : Char) :
    ∃ b bs, utf8Char c = b :: bs ∧
      ∀ rest, decodeStep b (bs ++ rest) = (some c, bs.length + 1) := by
  unfold utf8Char
  simp only
  split
  · rename_i h
    exact ⟨_, _, rfl, fun rest => decodeStep_one h rest⟩
  · split
    · exact ⟨_, _, rfl, fun rest => decodeStep_two (by omega) (by omega) rest⟩
    · split
      · exact ⟨_, _, rfl, fun rest => decodeStep_three (by omega) (by omega) rest⟩
      · exact ⟨_, _, rfl, fun rest => decodeStep_four (by omega) rest⟩

@[simp] theorem utf8_nil : utf8 [] = [] := rfl

@[simp] theorem utf8_append (cs ds : List Char) : utf8 (cs ++ ds) = utf8 cs ++ utf8 ds := by
  induction cs with
  | nil => rfl
  | cons c cs ih => simp [utf8, ih]

@[simp] theorem utf8_eq_nil_iff {cs : List Char} : utf8 cs = [] ↔ cs = [] := by
  cases cs with
  | nil => simp
  | cons c cs =>
    obtain ⟨b, bs, hc, _⟩ := decodeStep_utf8Char c
    simp [utf8, hc]

@[simp] theorem utf8?_utf8 (cs : List Char) : utf8? (utf8 cs) = some cs := by
  induction cs with
  | nil => rw [utf8, utf8?]
  | cons c cs ih =>
    obtain ⟨b, bs, hc, hstep⟩ := decodeStep_utf8Char c
    rw [utf8, hc, List.cons_append, utf8?, hstep]
    simp [ih]

@[simp] theorem utf8Lossy_utf8 (cs : List Char) : utf8Lossy (utf8 cs) = cs := by
  induction cs with
  | nil => rw [utf8, utf8Lossy]
  | cons c cs ih =>
    obtain ⟨b, bs, hc, hstep⟩ := decodeStep_utf8Char c
    rw [utf8, hc, List.cons_append, utf8Lossy, hstep]
    simp [ih]

/-! ## ASCII bytes -/

/-- A byte below `0x80` is a character of its own. -/
theorem mem_utf8Char {b : UInt8} {c : Char} (h : b ∈ utf8Char c) (hb : b.toNat < 0x80) :
    c.toNat = b.toNat := by
  have hchar := toNat_lt c
  unfold utf8Char at h
  simp only at h
  split at h
  · rw [List.mem_singleton.mp h, toNat_ofNat_of_lt (by omega)]
  · exfalso
    split at h
    · simp only [List.mem_cons, List.not_mem_nil, or_false] at h
      rcases h with rfl | rfl <;> rw [toNat_ofNat_of_lt (by omega)] at hb <;> omega
    · split at h
      · simp only [List.mem_cons, List.not_mem_nil, or_false] at h
        rcases h with rfl | rfl | rfl <;> rw [toNat_ofNat_of_lt (by omega)] at hb <;> omega
      · simp only [List.mem_cons, List.not_mem_nil, or_false] at h
        rcases h with rfl | rfl | rfl | rfl <;> rw [toNat_ofNat_of_lt (by omega)] at hb <;> omega

/-- ASCII characters take one byte each. -/
theorem utf8_of_ascii {cs : List Char} (h : ∀ c ∈ cs, c.toNat < 0x80) :
    utf8 cs = cs.map fun c => UInt8.ofNat c.toNat := by
  induction cs with
  | nil => rfl
  | cons c cs ih =>
    have hc : c.toNat < 0x80 := h c List.mem_cons_self
    have ih := ih fun d hd => h d (List.mem_cons_of_mem _ hd)
    simp [utf8, utf8Char, hc, ih]

theorem take_utf8_of_ascii {cs : List Char} (h : ∀ c ∈ cs, c.toNat < 0x80) (k : Nat) :
    (utf8 cs).take k = utf8 (cs.take k) := by
  have htake : ∀ c ∈ cs.take k, c.toNat < 0x80 := fun c hc => h c (List.mem_of_mem_take hc)
  rw [utf8_of_ascii h, utf8_of_ascii htake, List.map_take]

theorem lineFeed_not_mem_utf8 {cs : List Char} (h : '\n' ∉ cs) : (0x0A : UInt8) ∉ utf8 cs := by
  induction cs with
  | nil => simp
  | cons c cs ih =>
    rw [List.mem_cons, not_or] at h
    rw [utf8, List.mem_append, not_or]
    refine ⟨fun hm => h.1 ?_, ih h.2⟩
    exact (Char.toNat_inj.mp (mem_utf8Char hm (by decide))).symm

theorem lineFeed_mem_utf8 {cs : List Char} (h : '\n' ∈ cs) : (0x0A : UInt8) ∈ utf8 cs := by
  have hfeed : utf8Char '\n' = [0x0A] := rfl
  obtain ⟨before, behind, rfl⟩ := List.append_of_mem h
  simp [utf8, hfeed]

/-- A line feed at the end of some bytes is one at the end of their text. -/
theorem eq_append_of_utf8_eq_append {cs : List Char} {bytes : Bytes}
    (h : utf8 cs = bytes ++ [0x0A]) : ∃ ds, cs = ds ++ ['\n'] ∧ bytes = utf8 ds := by
  rcases List.eq_nil_or_concat cs with rfl | ⟨ds, c, rfl⟩
  · simp at h
  · rw [List.concat_eq_append] at h ⊢
    have hsingle : utf8 [c] = utf8Char c := by rw [utf8, utf8_nil, List.append_nil]
    have hne : utf8Char c ≠ [] := by rw [← hsingle, Ne, utf8_eq_nil_iff]; simp
    have hlast : (utf8Char c).getLast? = some 0x0A := by
      rw [utf8_append, hsingle] at h
      have hwhole := congrArg List.getLast? h
      rw [List.getLast?_append, List.getLast?_concat, List.getLast?_eq_some_getLast hne] at hwhole
      rw [List.getLast?_eq_some_getLast hne]
      exact hwhole
    obtain rfl : c = '\n' :=
      Char.toNat_inj.mp (mem_utf8Char (List.mem_of_getLast? hlast) (by decide))
    rw [utf8_append] at h
    exact ⟨ds, rfl, (List.append_cancel_right h).symm⟩

/-! ## What decodes is what was encoded -/

theorem toNat_ofNat_of_valid {n : Nat} (h : n < 0xD800 ∨ (0xDFFF < n ∧ n < 0x110000)) :
    (Char.ofNat n).toNat = n := by
  have hvalid : n.isValidChar := h
  rw [Char.ofNat, dif_pos hvalid]
  rfl

theorem eq_ofNat {b : UInt8} {n : Nat} (h : b.toNat = n) : UInt8.ofNat n = b := by
  rw [← h, UInt8.ofNat_toNat]

theorem of_isContinuation {b : UInt8} (h : isContinuation b = true) :
    0x80 ≤ b.toNat ∧ b.toNat < 0xC0 := by
  simpa [isContinuation] using h

/-- What the bounds of a second byte are good for. -/
theorem of_mayFollow {first second : UInt8} (h : mayFollow first second = true) :
    (0x80 ≤ second.toNat ∧ second.toNat < 0xC0) ∧
      (first.toNat = 0xE0 → 0xA0 ≤ second.toNat) ∧ (first.toNat = 0xED → second.toNat < 0xA0) ∧
      (first.toNat = 0xF0 → 0x90 ≤ second.toNat) ∧ (first.toNat = 0xF4 → second.toNat < 0x90) := by
  simp only [mayFollow, beq_iff_eq] at h
  split at h
  · simp only [Bool.and_eq_true, decide_eq_true_eq] at h; omega
  · split at h
    · simp only [Bool.and_eq_true, decide_eq_true_eq] at h; omega
    · split at h
      · simp only [Bool.and_eq_true, decide_eq_true_eq] at h; omega
      · split at h
        · simp only [Bool.and_eq_true, decide_eq_true_eq] at h; omega
        · simp only [Bool.and_eq_true, decide_eq_true_eq] at h; omega

theorem utf8Char_one {a : UInt8} (ha : a.toNat < 0x80) : utf8Char (Char.ofNat a.toNat) = [a] := by
  have hc := toNat_ofNat_of_valid (n := a.toNat) (by omega)
  simp only [utf8Char, hc, if_pos ha, UInt8.ofNat_toNat]

theorem utf8Char_two {a b : UInt8} (ha : 0xC2 ≤ a.toNat ∧ a.toNat < 0xE0)
    (hb : isContinuation b = true) :
    utf8Char (Char.ofNat ((a.toNat - 0xC0) * 0x40 + (b.toNat - 0x80))) = [a, b] := by
  have hb := of_isContinuation hb
  generalize hn : (a.toNat - 0xC0) * 0x40 + (b.toNat - 0x80) = n
  have hc := toNat_ofNat_of_valid (n := n) (by omega)
  have hone : ¬ n < 0x80 := by omega
  have htwo : n < 0x800 := by omega
  simp only [utf8Char, hc, if_neg hone, if_pos htwo]
  rw [eq_ofNat (b := a) (by omega), eq_ofNat (b := b) (by omega)]

theorem utf8Char_three {a b c : UInt8} (ha : 0xE0 ≤ a.toNat ∧ a.toNat < 0xF0)
    (hb : mayFollow a b = true) (hc : isContinuation c = true) :
    utf8Char (Char.ofNat ((a.toNat - 0xE0) * 0x1000 + (b.toNat - 0x80) * 0x40 + (c.toNat - 0x80))) =
      [a, b, c] := by
  obtain ⟨hb, hE0, hED, -, -⟩ := of_mayFollow hb
  have hc := of_isContinuation hc
  generalize hn : (a.toNat - 0xE0) * 0x1000 + (b.toNat - 0x80) * 0x40 + (c.toNat - 0x80) = n
  have hchar := toNat_ofNat_of_valid (n := n) (by omega)
  have hone : ¬ n < 0x80 := by omega
  have htwo : ¬ n < 0x800 := by omega
  have hthree : n < 0x10000 := by omega
  simp only [utf8Char, hchar, if_neg hone, if_neg htwo, if_pos hthree]
  rw [eq_ofNat (b := a) (by omega), eq_ofNat (b := b) (by omega), eq_ofNat (b := c) (by omega)]

theorem utf8Char_four {a b c d : UInt8} (ha : 0xF0 ≤ a.toNat ∧ a.toNat < 0xF5)
    (hb : mayFollow a b = true) (hc : isContinuation c = true) (hd : isContinuation d = true) :
    utf8Char (Char.ofNat ((a.toNat - 0xF0) * 0x40000 + (b.toNat - 0x80) * 0x1000 +
      (c.toNat - 0x80) * 0x40 + (d.toNat - 0x80))) = [a, b, c, d] := by
  obtain ⟨hb, -, -, hF0, hF4⟩ := of_mayFollow hb
  have hc := of_isContinuation hc
  have hd := of_isContinuation hd
  generalize hn : (a.toNat - 0xF0) * 0x40000 + (b.toNat - 0x80) * 0x1000 +
    (c.toNat - 0x80) * 0x40 + (d.toNat - 0x80) = n
  have hchar := toNat_ofNat_of_valid (n := n) (by omega)
  have hone : ¬ n < 0x80 := by omega
  have htwo : ¬ n < 0x800 := by omega
  have hthree : ¬ n < 0x10000 := by omega
  simp only [utf8Char, hchar, if_neg hone, if_neg htwo, if_neg hthree]
  rw [eq_ofNat (b := a) (by omega), eq_ofNat (b := b) (by omega), eq_ofNat (b := c) (by omega),
    eq_ofNat (b := d) (by omega)]

/-- A character comes only from its own bytes. -/
theorem decodeStep_eq_some {first : UInt8} {rest : Bytes} {c : Char} {n : Nat}
    (h : decodeStep first rest = (some c, n)) : utf8Char c = first :: rest.take (n - 1) := by
  unfold decodeStep at h
  simp only [Bool.and_eq_true, decide_eq_true_eq] at h
  split at h
  · rename_i ha
    rw [Prod.mk.injEq, Option.some.injEq] at h
    obtain ⟨rfl, rfl⟩ := h
    exact utf8Char_one ha
  · split at h
    · rename_i ha
      split at h
      · split at h
        · rename_i hb
          rw [Prod.mk.injEq, Option.some.injEq] at h
          obtain ⟨rfl, rfl⟩ := h
          exact utf8Char_two ha hb
        · cases h
      · cases h
    · split at h
      · rename_i ha
        split at h
        · split at h
          · rename_i hb
            split at h
            · split at h
              · rename_i hc
                rw [Prod.mk.injEq, Option.some.injEq] at h
                obtain ⟨rfl, rfl⟩ := h
                exact utf8Char_three ha hb hc
              · cases h
            · cases h
          · cases h
        · cases h
      · split at h
        · rename_i ha
          split at h
          · split at h
            · rename_i hb
              split at h
              · split at h
                · rename_i hc
                  split at h
                  · split at h
                    · rename_i hd
                      rw [Prod.mk.injEq, Option.some.injEq] at h
                      obtain ⟨rfl, rfl⟩ := h
                      exact utf8Char_four ha hb hc hd
                    · cases h
                  · cases h
                · cases h
              · cases h
            · cases h
          · cases h
        · cases h

theorem eq_utf8_of_utf8? {bytes : Bytes} {cs : List Char} (h : utf8? bytes = some cs) :
    bytes = utf8 cs := by
  fun_induction utf8? bytes generalizing cs with
  | case1 => cases h; rfl
  | case2 b bs c n hstep ih =>
    obtain ⟨ds, hds, rfl⟩ := Option.map_eq_some_iff.mp h
    rw [utf8, decodeStep_eq_some hstep, List.cons_append, ← ih hds, List.take_append_drop]
  | case3 => cases h

/-- The bytes that decode are those of a text. -/
theorem utf8?_eq_some_iff {bytes : Bytes} {cs : List Char} :
    utf8? bytes = some cs ↔ bytes = utf8 cs := by
  constructor
  · exact eq_utf8_of_utf8?
  · rintro rfl
    exact utf8?_utf8 cs

/-- The bytes of a text. -/
def IsText (bytes : Bytes) : Prop := ∃ cs, bytes = utf8 cs

theorem utf8?_eq_none_iff {bytes : Bytes} : utf8? bytes = none ↔ ¬ IsText bytes := by
  simp only [IsText, ← utf8?_eq_some_iff]
  cases utf8? bytes <;> simp

/-- Bytes that are no text have a first faulty run. -/
theorem exists_utf8FaultFrom (index : Nat) {bytes : Bytes} (h : utf8? bytes = none) :
    ∃ fault, utf8FaultFrom index bytes = some fault := by
  fun_induction utf8FaultFrom index bytes with
  | case1 => simp [utf8?] at h
  | case2 index b bs c n hstep ih =>
    rw [utf8?, hstep] at h
    exact ih (by simpa using h)
  | case3 => exact ⟨_, rfl⟩
  | case4 => exact ⟨_, rfl⟩

/-- Lenient decoding makes up no ASCII character. -/
theorem mem_of_mem_utf8Lossy {bytes : Bytes} {c : Char} (h : c ∈ utf8Lossy bytes)
    (hc : c.toNat < 0x80) : UInt8.ofNat c.toNat ∈ bytes := by
  fun_induction utf8Lossy bytes with
  | case1 => contradiction
  | case2 b bs d n hstep ih =>
    rcases List.mem_cons.mp h with rfl | h
    · have hbytes := decodeStep_eq_some hstep
      simp only [utf8Char, if_pos hc] at hbytes
      rw [(List.cons.inj hbytes).1]
      exact List.mem_cons_self
    · exact List.mem_cons_of_mem b (List.mem_of_mem_drop (ih h))
  | case3 b bs n hstep ih =>
    rcases List.mem_cons.mp h with rfl | h
    · simp at hc
    · exact List.mem_cons_of_mem b (List.mem_of_mem_drop (ih h))

end AppConfig.Text
