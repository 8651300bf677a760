import AppConfig.Proofs.Locate.Declaration
import AppConfig.Proofs.Text.Lines
import AppConfig.Proofs.Validation.Acceptance

/-!
# AppConfig.Proofs.Validation.Placement

Which field a finding speaks of, and that it stands on the line where that field is found; and that
the findings for a mapping stand on lines that the text has.
-/

namespace AppConfig

/-- A finding speaks of a field when its message says what the value at its path must be. -/
def Finding.About (f : Finding) (field : Field) : Prop :=
  ∃ wanted, f.message = "\"" ++ field.path ++ "\" must be " ++ wanted

/-- A finding on the line where the field that it speaks of is found. -/
def Finding.Placed (f : Finding) (text : List Char) : Prop :=
  ∃ field ∈ Schema.fields, f.About field ∧ f.line = locateField text field.key.toList

namespace Schema

theorem eq_of_path : ∀ f ∈ fields, ∀ g ∈ fields, f.path = g.path → f = g := by
  decide

theorem quote_not_mem_path : ∀ f ∈ fields, '"' ∉ f.path.toList := by
  decide

end Schema

theorem Finding.About.takeWhile_message {f : Finding} {field : Field} (h : f.About field)
    (hfield : field ∈ Schema.fields) :
    (f.message.toList.drop 1).takeWhile (· != '"') = field.path.toList := by
  obtain ⟨wanted, hmessage⟩ := h
  have hpath : ∀ c ∈ field.path.toList, (c != '"') = true := by
    intro c hc
    have : c ≠ '"' := fun heq => Schema.quote_not_mem_path field hfield (heq ▸ hc)
    simpa using this
  rw [hmessage]
  simp only [String.toList_append, List.append_assoc]
  exact takeWhile_run hpath (by rintro c ⟨⟩; rfl)

/-- No finding speaks of two fields: a path has no quotation mark in it, so it ends where the
message closes the quotation. -/
theorem Finding.About.unique {f : Finding} {field other : Field} (hfield : field ∈ Schema.fields)
    (hother : other ∈ Schema.fields) (h : f.About field) (h' : f.About other) : field = other := by
  apply Schema.eq_of_path field hfield other hother
  apply String.toList_injective
  rw [← h.takeWhile_message hfield, ← h'.takeWhile_message hother]

theorem placed_of {f : Finding} {text : List Char} (path key wanted : String)
    (hknown : ∃ field ∈ Schema.fields, field.path = path ∧ field.key = key)
    (hline : f.line = locateField text key.toList)
    (hmessage : f.message = "\"" ++ path ++ "\" must be " ++ wanted) : f.Placed text := by
  obtain ⟨field, hfield, rfl, rfl⟩ := hknown
  exact ⟨field, hfield, ⟨wanted, hmessage⟩, hline⟩

theorem placed_of_mem_validateSettings {settings : Mapping} {text : List Char} {f : Finding}
    (h : f ∈ validateSettings settings text) : f.Placed text := by
  rcases mem_validateSettings.mp h with ⟨_, _, _, rfl⟩ | ⟨_, _, _, rfl⟩ | ⟨_, _, _, rfl⟩
  · exact placed_of "settings.timeout" "timeout" "a number" (by decide) rfl rfl
  · exact placed_of "settings.retries" "retries" "a number" (by decide) rfl rfl
  · exact placed_of "settings.retries" "retries" "≥ 0" (by decide) rfl rfl

theorem placed_of_mem_validate {document : Mapping} {text : List Char} {f : Finding}
    (h : f ∈ validate document text) (hkind : f.kind = .typeMismatch ∨ f.kind = .outOfRange) :
    f.Placed text := by
  cases mem_validate.mp h with
  | missing => rcases hkind with hkind | hkind <;> contradiction
  | notString hkey =>
    rcases hkey with rfl | rfl
    · exact placed_of "name" "name" "a string" (by decide) rfl rfl
    · exact placed_of "version" "version" "a string" (by decide) rfl rfl
  | notBoolean =>
    exact placed_of "enabled" "enabled" "a boolean (true or false)" (by decide) rfl rfl
  | notMapping => exact placed_of "settings" "settings" "an object" (by decide) rfl rfl
  | within _ _ hf => exact placed_of_mem_validateSettings hf

/-! ## Lines of findings -/

theorem ne_nil_of_not_blank {text : List Char} (h : ¬ Blank text) : text ≠ [] := by
  rintro rfl
  exact h fun c hc => absurd hc List.not_mem_nil

/-- Where a field is not found, it is looked for on the first line, and a text has one. -/
theorem locateField_lt {text : List Char} (h : text ≠ []) (key : List Char) :
    locateField text key < (Text.lines text).length := by
  rw [locateField]
  cases hline : findFieldLine text key with
  | none => exact List.length_pos_iff.mpr (Text.lines_ne_nil h)
  | some n => exact (findFieldLine_eq_some_iff.mp hline).1.lt_length

theorem line_lt_of_mem_validate {document : Mapping} {text : List Char} {f : Finding}
    (hne : text ≠ []) (h : f ∈ validate document text) : f.line < (Text.lines text).length := by
  cases mem_validate.mp h with
  | missing => exact List.length_pos_iff.mpr (Text.lines_ne_nil hne)
  | notString => exact locateField_lt hne _
  | notBoolean => exact locateField_lt hne _
  | notMapping => exact locateField_lt hne _
  | within _ _ hf =>
    rcases mem_validateSettings.mp hf with ⟨_, _, _, rfl⟩ | ⟨_, _, _, rfl⟩ | ⟨_, _, _, rfl⟩
    · exact locateField_lt hne _
    · exact locateField_lt hne _
    · exact locateField_lt hne _

/-- A finding is on a line of the text unless the text cannot be read. -/
theorem line_lt_length_of_mem_validateText {text : List Char} {f : Finding}
    (h : f ∈ validateText text) (hkind : f.kind ≠ .syntaxError) :
    f.line < (Text.lines text).length := by
  have hbom := Text.length_lines_dropBom_le text
  have hverdict := verdict_validateText text
  generalize validateText text = fs at *
  cases hverdict with
  | blank => contradiction
  | unreadable =>
    obtain rfl := List.mem_singleton.mp h
    exact absurd rfl hkind
  | noMapping hblank =>
    obtain rfl := List.mem_singleton.mp h
    have hlines := List.length_pos_iff.mpr (Text.lines_ne_nil (ne_nil_of_not_blank hblank))
    exact Nat.lt_of_lt_of_le hlines hbom
  | document hblank =>
    exact Nat.lt_of_lt_of_le (line_lt_of_mem_validate (ne_nil_of_not_blank hblank) h) hbom

/-! ## Fields of findings -/

theorem placed_of_mem_validateText {text : List Char} {f : Finding} (h : f ∈ validateText text)
    (hkind : f.kind = .typeMismatch ∨ f.kind = .outOfRange) : f.Placed (Text.dropBom text) := by
  have hverdict := verdict_validateText text
  generalize validateText text = fs at *
  cases hverdict with
  | blank => contradiction
  | unreadable =>
    obtain rfl := List.mem_singleton.mp h
    rcases hkind with hkind | hkind <;> contradiction
  | noMapping =>
    obtain rfl := List.mem_singleton.mp h
    rcases hkind with hkind | hkind <;> contradiction
  | document => exact placed_of_mem_validate h hkind

end AppConfig
