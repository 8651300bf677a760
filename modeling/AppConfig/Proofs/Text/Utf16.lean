import AppConfig.Proofs.Text.Utf8
import AppConfig.Text.Units

/-!
# AppConfig.Proofs.Text.Utf16

The UTF-16 encoding of a text. Columns count its code units (`length_utf16`), and a slice of it is
the encoding of one text only (`utf16_injective`).
-/

namespace AppConfig.Text

/-- The code units of a character: itself in the basic plane, a surrogate pair outside of it. -/
def utf16Char (c : Char) : List UInt16 :=
  if c.toNat < 0x10000 then [UInt16.ofNat c.toNat]
  else [UInt16.ofNat (0xD800 + (c.toNat - 0x10000) / 0x400),
    UInt16.ofNat (0xDC00 + (c.toNat - 0x10000) % 0x400)]

def utf16 (cs : List Char) : List UInt16 := cs.flatMap utf16Char

@[simp] theorem utf16_append (cs ds : List Char) : utf16 (cs ++ ds) = utf16 cs ++ utf16 ds :=
  List.flatMap_append

theorem length_utf16Char (c : Char) : (utf16Char c).length = unitCount c := by
  unfold utf16Char unitCount
  split
  · rfl
  · rfl

@[simp] theorem length_utf16 (cs : List Char) : (utf16 cs).length = units cs := by
  induction cs with
  | nil => rfl
  | cons c cs ih =>
    rw [utf16, List.flatMap_cons, List.length_append, length_utf16Char, ← utf16, ih, units]

@[simp] theorem units_append (cs ds : List Char) : units (cs ++ ds) = units cs + units ds := by
  rw [← length_utf16, utf16_append, List.length_append, length_utf16, length_utf16]

/-- The units of a text stand between the units of what is around it. -/
theorem extract_utf16 (before cs behind : List Char) :
    (utf16 (before ++ (cs ++ behind))).extract (units before) (units before + units cs) =
      utf16 cs := by
  rw [List.extract_eq_take_drop, utf16_append, ← length_utf16 before, List.drop_left,
    Nat.add_sub_cancel_left, utf16_append, ← length_utf16 cs, List.take_left]

/-! ## Decoding is unambiguous -/

theorem toNat_ofNat_of_lt_word {n : Nat} (h : n < 0x10000) : (UInt16.ofNat n).toNat = n := by
  rw [UInt16.toNat_ofNat']
  exact Nat.mod_eq_of_lt h

/-- The units of a character are known before what follows them: a surrogate is no character. -/
theorem utf16Char_append_inj {c d : Char} {us vs : List UInt16}
    (h : utf16Char c ++ us = utf16Char d ++ vs) : c = d ∧ us = vs := by
  have hc := toNat_lt c
  have hd := toNat_lt d
  unfold utf16Char at h
  split at h <;> split at h
  all_goals
    simp only [List.cons_append, List.nil_append, List.cons.injEq, ← UInt16.toNat_inj] at h
  · rw [toNat_ofNat_of_lt_word (by omega), toNat_ofNat_of_lt_word (by omega)] at h
    exact ⟨Char.toNat_inj.mp h.1, h.2⟩
  · rw [toNat_ofNat_of_lt_word (by omega), toNat_ofNat_of_lt_word (by omega)] at h
    omega
  · rw [toNat_ofNat_of_lt_word (by omega), toNat_ofNat_of_lt_word (by omega)] at h
    omega
  · obtain ⟨hfirst, hsecond, htail⟩ := h
    rw [toNat_ofNat_of_lt_word (by omega), toNat_ofNat_of_lt_word (by omega)] at hfirst hsecond
    exact ⟨Char.toNat_inj.mp (by omega), htail⟩

theorem utf16Char_ne_nil (c : Char) : utf16Char c ≠ [] := by
  unfold utf16Char
  split
  · exact List.cons_ne_nil _ _
  · exact List.cons_ne_nil _ _

theorem utf16_eq_nil_iff {cs : List Char} : utf16 cs = [] ↔ cs = [] := by
  cases cs with
  | nil => simp [utf16]
  | cons c cs => simp [utf16, utf16Char_ne_nil]

/-- No two texts have the same code units. -/
theorem utf16_injective {cs ds : List Char} (h : utf16 cs = utf16 ds) : cs = ds := by
  induction cs generalizing ds with
  | nil => exact (utf16_eq_nil_iff.mp h.symm).symm
  | cons c cs ih =>
    cases ds with
    | nil => exact utf16_eq_nil_iff.mp h
    | cons d ds =>
      rw [utf16, utf16, List.flatMap_cons, List.flatMap_cons] at h
      obtain ⟨rfl, htail⟩ := utf16Char_append_inj h
      rw [ih htail]

end AppConfig.Text
