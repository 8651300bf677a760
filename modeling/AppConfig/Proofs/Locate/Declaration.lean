import AppConfig.Locate

/-!
# AppConfig.Proofs.Locate.Declaration

What it takes for a line to declare a key (`Declares`), and that `declaration?` finds out: the run
of characters that it takes for the key is the only one that white space and a colon can follow. A
field is found on the first line that declares it.
-/

namespace AppConfig

open Text (isWhite isBlank)

/-! ## Runs of characters -/

section Runs

variable {p : Char → Bool} {run rest : List Char}

theorem takeWhile_run (hrun : ∀ c ∈ run, p c = true) (hstop : ∀ c ∈ rest.head?, p c = false) :
    (run ++ rest).takeWhile p = run := by
  rw [List.takeWhile_append_of_pos hrun]
  cases rest with
  | nil => simp
  | cons c cs => simp [hstop c rfl]

theorem dropWhile_run (hrun : ∀ c ∈ run, p c = true) (hstop : ∀ c ∈ rest.head?, p c = false) :
    (run ++ rest).dropWhile p = rest := by
  rw [List.dropWhile_append_of_pos hrun]
  cases rest with
  | nil => simp
  | cons c cs => simp [hstop c rfl]

end Runs

/-! ## Declarations -/

/-- A line declares a key: white space, the key, white space and a colon. The white space may be
missing; the key may not, and has neither white space nor a colon in it. -/
structure Declares (line indent key : List Char) : Prop where
  written : ∃ gap rest, isBlank gap = true ∧ line = indent ++ (key ++ (gap ++ ':' :: rest))
  blank : isBlank indent = true
  nonempty : key ≠ []
  chars : ∀ c ∈ key, isKeyChar c = true

theorem isKeyChar_iff {c : Char} : isKeyChar c = true ↔ isWhite c = false ∧ c ≠ ':' := by
  simp [isKeyChar]

/-- A declaration is found, whatever class of characters the key is looked for in. -/
theorem declaration?_eq_some_iff {p : Char → Bool} (hp : ∀ c, p c = true → isKeyChar c = true)
    {line indent key : List Char} :
    declaration? p line = some (indent, key) ↔
      Declares line indent key ∧ ∀ c ∈ key, p c = true := by
  constructor
  · intro h
    simp only [declaration?] at h
    split at h
    · cases h
    · rename_i c cs rest hkey hrest
      obtain ⟨rfl, rfl⟩ := Prod.mk.inj (Option.some.inj h)
      have hline := List.takeWhile_append_dropWhile (p := isWhite) (l := line)
      generalize line.dropWhile isWhite = body at *
      have hbody : body.takeWhile p ++ body.dropWhile p = body := List.takeWhile_append_dropWhile
      have hgap : (body.dropWhile p).takeWhile isWhite ++ ':' :: rest = body.dropWhile p := by
        rw [← hrest]
        exact List.takeWhile_append_dropWhile
      have hall : ∀ d ∈ body.takeWhile p, p d = true := List.all_eq_true.mp List.all_takeWhile
      refine ⟨⟨⟨(body.dropWhile p).takeWhile isWhite, rest, List.all_takeWhile, ?_⟩,
        List.all_takeWhile, ?_, fun d hd => hp d (hall d hd)⟩, hall⟩
      · rw [hgap, hbody, hline]
      · rw [hkey]
        exact List.cons_ne_nil c cs
    · cases h
  · rintro ⟨⟨⟨gap, rest, hgap, rfl⟩, hindent, hne, hchars⟩, hkey⟩
    have hindent := List.all_eq_true.mp hindent
    have hgap := List.all_eq_true.mp hgap
    obtain ⟨c, cs, rfl⟩ := List.exists_cons_of_ne_nil hne
    have hbody : ∀ d ∈ ((c :: cs) ++ (gap ++ ':' :: rest)).head?, isWhite d = false := by
      intro d hd
      cases hd
      exact (isKeyChar_iff.mp (hchars c List.mem_cons_self)).1
    -- what stands behind the key is white space or a colon, and neither is a key character
    have hstop : ∀ d ∈ (gap ++ ':' :: rest).head?, p d = false := by
      intro d hd
      rw [← Bool.not_eq_true]
      intro hpd
      obtain ⟨hwhite, hcolon⟩ := isKeyChar_iff.mp (hp d hpd)
      cases gap with
      | nil => exact hcolon (Option.some.inj hd).symm
      | cons g gs =>
        cases hd
        rw [hgap d List.mem_cons_self] at hwhite
        contradiction
    have hcolon : ∀ d ∈ (':' :: rest).head?, isWhite d = false := by
      intro d hd
      cases hd
      rfl
    simp only [declaration?, takeWhile_run hindent hbody, dropWhile_run hindent hbody,
      takeWhile_run hkey hstop, dropWhile_run hkey hstop, dropWhile_run hgap hcolon]

/-- A line declares one key only, behind one indentation. -/
theorem Declares.unique {line indent indent' key key' : List Char} (h : Declares line indent key)
    (h' : Declares line indent' key') : indent = indent' ∧ key = key' := by
  have hfound := (declaration?_eq_some_iff fun _ hc => hc).mpr ⟨h, h.chars⟩
  rw [(declaration?_eq_some_iff fun _ hc => hc).mpr ⟨h', h'.chars⟩] at hfound
  cases hfound
  exact ⟨rfl, rfl⟩

theorem declaredKey?_eq_some_iff {line key : List Char} :
    declaredKey? line = some key ↔ ∃ indent, Declares line indent key := by
  simp only [declaredKey?, Option.map_eq_some_iff, Prod.exists,
    declaration?_eq_some_iff (p := isKeyChar) fun _ h => h]
  constructor
  · rintro ⟨indent, key, ⟨hdeclares, -⟩, rfl⟩
    exact ⟨indent, hdeclares⟩
  · rintro ⟨indent, hdeclares⟩
    exact ⟨indent, key, ⟨hdeclares, hdeclares.chars⟩, rfl⟩

/-! ## The first declaration -/

/-- The line with a number declares a key. -/
def DeclaresAt (text : List Char) (n : Nat) (key : List Char) : Prop :=
  ∃ line indent, Text.line? text n = some line ∧ Declares line indent key

theorem declaresAt_iff {text key : List Char} {n : Nat} :
    DeclaresAt text n key ↔ (Text.line? text n).bind declaredKey? = some key := by
  simp only [DeclaresAt, Option.bind_eq_some_iff, declaredKey?_eq_some_iff, exists_and_left]

theorem DeclaresAt.lt_length {text key : List Char} {n : Nat} (h : DeclaresAt text n key) :
    n < (Text.lines text).length := by
  obtain ⟨line, -, hline, -⟩ := h
  exact (List.getElem?_eq_some_iff.mp hline).1

theorem findFieldLine_eq_some_iff {text key : List Char} {n : Nat} :
    findFieldLine text key = some n ↔
      DeclaresAt text n key ∧ ∀ m < n, ¬ DeclaresAt text m key := by
  have hat (m : Nat) (hm : m < (Text.lines text).length) :
      DeclaresAt text m key ↔ declaredKey? (Text.lines text)[m] = some key := by
    rw [declaresAt_iff, Text.line?, List.getElem?_eq_getElem hm, Option.bind_some]
  rw [findFieldLine, List.findIdx?_eq_some_iff_getElem]
  simp only [beq_iff_eq]
  constructor
  · rintro ⟨hn, hdeclared, hbefore⟩
    refine ⟨(hat n hn).mpr hdeclared, fun m hm h => ?_⟩
    exact hbefore m hm ((hat m (by omega)).mp h)
  · rintro ⟨hdeclared, hbefore⟩
    have hn := hdeclared.lt_length
    refine ⟨hn, (hat n hn).mp hdeclared, fun m hm h => ?_⟩
    exact hbefore m hm ((hat m (by omega)).mpr h)

theorem findFieldLine_eq_none_iff {text key : List Char} :
    findFieldLine text key = none ↔ ∀ n, ¬ DeclaresAt text n key := by
  rw [findFieldLine, List.findIdx?_eq_none_iff]
  constructor
  · rintro h n ⟨line, indent, hline, hdeclares⟩
    have hkey : declaredKey? line = some key := declaredKey?_eq_some_iff.mpr ⟨indent, hdeclares⟩
    have := h line (List.mem_of_getElem? hline)
    rw [hkey, beq_self_eq_true] at this
    contradiction
  · intro h line hm
    obtain ⟨n, hline⟩ := List.mem_iff_getElem?.mp hm
    rw [beq_eq_false_iff_ne]
    intro hkey
    obtain ⟨indent, hdeclares⟩ := declaredKey?_eq_some_iff.mp hkey
    exact h n ⟨line, indent, hline, hdeclares⟩

end AppConfig
