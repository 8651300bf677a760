import AppConfig.Proofs.Yaml.Content

/-!
# AppConfig.Proofs.Validation.Acceptance

Validation accepts exactly the schema. The schema is stated here once more, as a property of
mappings that knows nothing of findings:

* `Conforms` — nothing is wrong with a mapping; then, and only then, it has no findings.
* `Fails` — a required field or the settings are wrong; then, and only then, a finding is an error.

`mem_validate` lists the findings of a mapping, each with its exact condition. What is said of them
later follows from it.
-/

namespace AppConfig

open Yaml (Value)

/-- Settings with nothing wrong in them. -/
structure SettingsConform (settings : Mapping) : Prop where
  timeout : ∀ v, Value.get? settings "timeout" = some v → v.IsNumber
  retries : ∀ v, Value.get? settings "retries" = some v → v.IsNumber ∧ ¬ v.IsNegative

def IsRequired (key : String) : Prop := key = "name" ∨ key = "version"

/-- A document with nothing wrong in it. -/
structure Conforms (document : Mapping) : Prop where
  required : ∀ key, IsRequired key → ∃ v, Value.get? document key = some v ∧ v.IsString
  enabled : ∀ v, Value.get? document "enabled" = some v → v.IsBoolean
  settings : ∀ v, Value.get? document "settings" = some v →
    ∃ es, v.Holds (.map es) ∧ SettingsConform es

/-- A document that cannot be used: a required field is missing or no string, or the settings are
there and no mapping. -/
inductive Fails (document : Mapping) : Prop where
  | missing {key : String} : IsRequired key → Value.get? document key = none → Fails document
  | notString {key : String} {v : Value} : IsRequired key →
      Value.get? document key = some v → ¬ v.IsString → Fails document
  | settings {v : Value} : Value.get? document "settings" = some v →
      (¬ ∃ es, v.Holds (.map es)) → Fails document

/-! ## The findings, one by one -/

/-- The finding for an absent field. -/
def absent (key : String) : Finding :=
  .error .missingRequiredField 0 ("required field \"" ++ key ++ "\" is missing")

theorem mem_missingFields {document : Mapping} {f : Finding} :
    f ∈ missingFields document ↔
      ∃ key, IsRequired key ∧ Value.get? document key = none ∧ f = absent key := by
  have hkeys : Schema.required.map (·.key) = ["name", "version"] := by decide
  have hkey (key : String) : IsRequired key ↔ ∃ field ∈ Schema.required, field.key = key := by
    rw [← List.mem_map, hkeys]
    simp [IsRequired]
  simp only [missingFields, List.mem_map, List.mem_filter, Option.isNone_iff_eq_none, hkey]
  constructor
  · rintro ⟨field, ⟨hmem, hnone⟩, rfl⟩
    exact ⟨field.key, ⟨field, hmem, rfl⟩, hnone, rfl⟩
  · rintro ⟨key, ⟨field, hmem, rfl⟩, hnone, rfl⟩
    exact ⟨field, ⟨hmem, hnone⟩, rfl⟩

theorem mem_mistyped {entries : Mapping} {text : List Char} {key : String} {type : FieldType}
    {severity : Severity} {message : String} {f : Finding} :
    f ∈ mistyped entries text key type severity message ↔
      ∃ v, Value.get? entries key = some v ∧ ¬ type.accepts v = true ∧
        f = ⟨severity, .typeMismatch, locateField text key.toList, message⟩ := by
  unfold mistyped
  cases hv : Value.get? entries key with
  | none => simp
  | some v =>
    by_cases ha : type.accepts v = true
    · simp [ha]
    · simp [ha]

theorem mem_validateSettings {settings : Mapping} {text : List Char} {f : Finding} :
    f ∈ validateSettings settings text ↔
      (∃ v, Value.get? settings "timeout" = some v ∧ ¬ v.IsNumber ∧
        f = ⟨.warning, .typeMismatch, locateField text "timeout".toList,
          "\"settings.timeout\" must be a number"⟩) ∨
      (∃ v, Value.get? settings "retries" = some v ∧ ¬ v.IsNumber ∧
        f = ⟨.warning, .typeMismatch, locateField text "retries".toList,
          "\"settings.retries\" must be a number"⟩) ∨
      ∃ v, Value.get? settings "retries" = some v ∧ v.IsNegative ∧
        f = ⟨.warning, .outOfRange, locateField text "retries".toList,
          "\"settings.retries\" must be ≥ 0"⟩ := by
  simp only [validateSettings, List.mem_append, mem_mistyped, Value.accepts_number_iff, or_assoc]
  refine or_congr_right (or_congr_right ?_)
  cases hv : Value.get? settings "retries" with
  | none => simp
  | some v =>
    by_cases hn : isNegative v = true
    · simp [hn, ← Value.isNegative_iff, Finding.warning]
    · simp [hn, ← Value.isNegative_iff]

/-- The findings of a document, each with its condition. -/
inductive Reported (document : Mapping) (text : List Char) : Finding → Prop where
  | missing {key : String} : IsRequired key → Value.get? document key = none →
      Reported document text (absent key)
  | notString {key : String} {v : Value} : IsRequired key →
      Value.get? document key = some v → ¬ v.IsString →
      Reported document text ⟨.error, .typeMismatch, locateField text key.toList,
        "\"" ++ key ++ "\" must be a string"⟩
  | notBoolean {v : Value} : Value.get? document "enabled" = some v → ¬ v.IsBoolean →
      Reported document text ⟨.warning, .typeMismatch, locateField text "enabled".toList,
        "\"enabled\" must be a boolean (true or false)"⟩
  | notMapping {v : Value} : Value.get? document "settings" = some v →
      (¬ ∃ es, v.Holds (.map es)) →
      Reported document text ⟨.error, .typeMismatch, locateField text "settings".toList,
        "\"settings\" must be an object"⟩
  | within {v : Value} {settings : Mapping} {f : Finding} :
      Value.get? document "settings" = some v → v.Holds (.map settings) →
      f ∈ validateSettings settings text → Reported document text f

theorem mem_validate {document : Mapping} {text : List Char} {f : Finding} :
    f ∈ validate document text ↔ Reported document text f := by
  simp only [validate, List.mem_append, mem_missingFields, mem_mistyped,
    Value.accepts_string_iff, Value.accepts_boolean_iff]
  constructor
  · rintro ((((⟨key, hkey, hnone, rfl⟩ | ⟨v, hv, hs, rfl⟩) | ⟨v, hv, hs, rfl⟩) | ⟨v, hv, hb, rfl⟩) |
      hsettings)
    · exact .missing hkey hnone
    · exact .notString (.inl rfl) hv hs
    · exact .notString (.inr rfl) hv hs
    · exact .notBoolean hv hb
    · cases hv : Value.get? document "settings" with
      | none => simp [hv] at hsettings
      | some v =>
        cases he : v.entries? with
        | none =>
          simp only [hv, he, List.mem_singleton] at hsettings
          subst hsettings
          exact .notMapping hv (Value.entries?_eq_none_iff.mp he)
        | some settings =>
          simp only [hv, he] at hsettings
          exact .within hv (Value.entries?_eq_some_iff.mp he) hsettings
  · intro h
    cases h with
    | missing hkey hnone => exact .inl (.inl (.inl (.inl ⟨_, hkey, hnone, rfl⟩)))
    | notString hkey hv hs =>
      rcases hkey with rfl | rfl
      · exact .inl (.inl (.inl (.inr ⟨_, hv, hs, rfl⟩)))
      · exact .inl (.inl (.inr ⟨_, hv, hs, rfl⟩))
    | notBoolean hv hb => exact .inl (.inr ⟨_, hv, hb, rfl⟩)
    | notMapping hv hm =>
      simp only [hv, Value.entries?_eq_none_iff.mpr hm]
      exact .inr List.mem_cons_self
    | within hv hm hf =>
      simp only [hv, Value.entries?_eq_some_iff.mpr hm]
      exact .inr hf

/-! ## Acceptance of a document -/

theorem validateSettings_eq_nil_iff {settings : Mapping} {text : List Char} :
    validateSettings settings text = [] ↔ SettingsConform settings := by
  simp only [List.eq_nil_iff_forall_not_mem, mem_validateSettings]
  constructor
  · intro h
    refine ⟨fun v hv => ?_, fun v hv => ⟨?_, fun hneg => ?_⟩⟩
    · by_contra hn
      exact h _ (.inl ⟨v, hv, hn, rfl⟩)
    · by_contra hn
      exact h _ (.inr (.inl ⟨v, hv, hn, rfl⟩))
    · exact h _ (.inr (.inr ⟨v, hv, hneg, rfl⟩))
  · rintro ⟨timeout, retries⟩ f (⟨v, hv, hn, -⟩ | ⟨v, hv, hn, -⟩ | ⟨v, hv, hneg, -⟩)
    · exact hn (timeout v hv)
    · exact hn (retries v hv).1
    · exact (retries v hv).2 hneg

theorem validate_eq_nil_iff {document : Mapping} {text : List Char} :
    validate document text = [] ↔ Conforms document := by
  simp only [List.eq_nil_iff_forall_not_mem, mem_validate]
  constructor
  · intro hnot
    refine ⟨fun key hkey => ?_, fun v hv => ?_, fun v hv => ?_⟩
    · cases hv : Value.get? document key with
      | none => exact absurd (.missing hkey hv) (hnot _)
      | some v =>
        refine ⟨v, rfl, ?_⟩
        by_contra hs
        exact hnot _ (.notString hkey hv hs)
    · by_contra hb
      exact hnot _ (.notBoolean hv hb)
    · by_cases hm : ∃ es, v.Holds (.map es)
      · obtain ⟨es, hes⟩ := hm
        have hnil : validateSettings es text = [] :=
          List.eq_nil_iff_forall_not_mem.mpr fun f hf => hnot f (.within hv hes hf)
        exact ⟨es, hes, validateSettings_eq_nil_iff.mp hnil⟩
      · exact absurd (.notMapping hv hm) (hnot _)
  · intro hc f hf
    cases hf with
    | missing hkey hnone =>
      obtain ⟨v, hv, -⟩ := hc.required _ hkey
      rw [hv] at hnone
      contradiction
    | notString hkey hv hs =>
      obtain ⟨u, hu, hstring⟩ := hc.required _ hkey
      obtain rfl : u = _ := Option.some.inj (hu.symm.trans hv)
      exact hs hstring
    | notBoolean hv hb => exact hb (hc.enabled _ hv)
    | notMapping hv hm =>
      obtain ⟨es, hes, -⟩ := hc.settings _ hv
      exact hm ⟨es, hes⟩
    | within hv hm hf =>
      obtain ⟨es, hes, hconform⟩ := hc.settings _ hv
      cases hes.unique hm
      rw [validateSettings_eq_nil_iff.mpr hconform] at hf
      exact List.not_mem_nil hf

/-- Below the settings nothing is an error. -/
theorem severity_of_mem_validateSettings {settings : Mapping} {text : List Char} {f : Finding}
    (h : f ∈ validateSettings settings text) : f.severity = .warning := by
  rcases mem_validateSettings.mp h with ⟨_, _, _, rfl⟩ | ⟨_, _, _, rfl⟩ | ⟨_, _, _, rfl⟩ <;> rfl

theorem exists_error_iff {document : Mapping} {text : List Char} :
    (∃ f ∈ validate document text, f.severity = .error) ↔ Fails document := by
  simp only [mem_validate]
  constructor
  · rintro ⟨f, hf, herror⟩
    cases hf with
    | missing hkey hnone => exact .missing hkey hnone
    | notString hkey hv hs => exact .notString hkey hv hs
    | notBoolean => contradiction
    | notMapping hv hm => exact .settings hv hm
    | within _ _ hf =>
      rw [severity_of_mem_validateSettings hf] at herror
      contradiction
  · intro h
    cases h with
    | missing hkey hnone => exact ⟨_, .missing hkey hnone, rfl⟩
    | notString hkey hv hs => exact ⟨_, .notString hkey hv hs, rfl⟩
    | settings hv hm => exact ⟨_, .notMapping hv hm, rfl⟩

/-- A document that was read has no finding that says it was not. -/
theorem kind_of_mem_validate {document : Mapping} {text : List Char} {f : Finding}
    (h : f ∈ validate document text) : f.kind ≠ .syntaxError ∧ f.kind ≠ .rootNotObject := by
  cases mem_validate.mp h with
  | missing => exact ⟨nofun, nofun⟩
  | notString => exact ⟨nofun, nofun⟩
  | notBoolean => exact ⟨nofun, nofun⟩
  | notMapping => exact ⟨nofun, nofun⟩
  | within _ _ hf =>
    rcases mem_validateSettings.mp hf with ⟨_, _, _, rfl⟩ | ⟨_, _, _, rfl⟩ | ⟨_, _, _, rfl⟩ <;>
      exact ⟨nofun, nofun⟩

/-! ## Acceptance of a text -/

/-- A text of white space only. -/
def Blank (s : List Char) : Prop := ∀ c ∈ s, Text.isWhite c = true

/-- How a text comes to its findings, one case for each way through `validateText`. -/
inductive Verdict (s : List Char) : List Finding → Prop where
  | blank : Blank s → Verdict s []
  | unreadable {e : ReadFailure} : ¬ Blank s → parse s = .error e → Verdict s [syntaxFinding e]
  | noMapping {root : Value} : ¬ Blank s → parse s = .ok root →
      (¬ ∃ es, root.Holds (.map es)) →
      Verdict s [.error .rootNotObject 0 "root element must be an object"]
  | document {root : Value} {es : Mapping} : ¬ Blank s → parse s = .ok root →
      root.Holds (.map es) → Verdict s (validate es s)

theorem verdict_validateText (text : List Char) :
    Verdict (Text.dropBom text) (validateText text) := by
  have hblank : Text.isBlank (Text.dropBom text) = true ↔ Blank (Text.dropBom text) := by
    rw [Text.isBlank, List.all_eq_true, Blank]
  unfold validateText
  by_cases hb : Text.isBlank (Text.dropBom text) = true
  · simp only [hb, if_true]
    exact .blank (hblank.mp hb)
  · simp only [hb]
    rw [hblank] at hb
    cases hp : parse (Text.dropBom text) with
    | error e => exact .unreadable hb hp
    | ok root =>
      cases he : root.entries? with
      | none =>
        simp only [he]
        exact .noMapping hb hp (Value.entries?_eq_none_iff.mp he)
      | some es =>
        simp only [he]
        exact .document hb hp (Value.entries?_eq_some_iff.mp he)

namespace Verdict

variable {s : List Char} {fs : List Finding}

theorem eq_nil_iff (h : Verdict s fs) :
    fs = [] ↔ Blank s ∨ ∃ root es, parse s = .ok root ∧ root.Holds (.map es) ∧ Conforms es := by
  cases h with
  | blank hb => simp [hb]
  | unreadable hb hp => simp [hb, hp]
  | noMapping hb hp hm =>
    simp only [hb, hp, false_or, reduceCtorEq, false_iff]
    rintro ⟨root, es, heq, hes, -⟩
    cases heq
    exact hm ⟨es, hes⟩
  | @document root es hb hp hes =>
    simp only [hb, hp, false_or, validate_eq_nil_iff]
    constructor
    · intro hc
      exact ⟨root, es, rfl, hes, hc⟩
    · rintro ⟨root, es', heq, hes', hc⟩
      cases heq
      cases hes.unique hes'
      exact hc

theorem exists_error_iff (h : Verdict s fs) :
    (∃ f ∈ fs, f.severity = .error) ↔ ¬ Blank s ∧
      ((∃ e, parse s = .error e) ∨
        ∃ root, parse s = .ok root ∧
          ((¬ ∃ es, root.Holds (.map es)) ∨ ∃ es, root.Holds (.map es) ∧ Fails es)) := by
  cases h with
  | blank hb => simp [hb]
  | unreadable hb hp => simp [hb, hp, syntaxFinding, Finding.error]
  | @noMapping root hb hp hm =>
    simp only [hb, hp, List.mem_singleton, exists_eq_left, Finding.error, not_false_eq_true,
      true_and, true_iff]
    exact .inr ⟨root, rfl, .inl hm⟩
  | @document root es hb hp hes =>
    simp only [hb, hp, not_false_eq_true, true_and, AppConfig.exists_error_iff, reduceCtorEq,
      exists_false, false_or]
    constructor
    · intro hf
      exact ⟨root, rfl, .inr ⟨es, hes, hf⟩⟩
    · rintro ⟨root, heq, hno | ⟨es', hes', hf⟩⟩
      · cases heq
        exact absurd ⟨es, hes⟩ hno
      · cases heq
        cases hes.unique hes'
        exact hf

theorem eq_singleton (h : Verdict s fs) {f : Finding} (hf : f ∈ fs)
    (hkind : f.kind = .syntaxError ∨ f.kind = .rootNotObject) : fs = [f] := by
  cases h with
  | blank => contradiction
  | unreadable => rw [List.mem_singleton.mp hf]
  | noMapping => rw [List.mem_singleton.mp hf]
  | document =>
    obtain ⟨hread, hroot⟩ := kind_of_mem_validate hf
    exact absurd hkind (not_or.mpr ⟨hread, hroot⟩)

end Verdict

/-- A text is accepted exactly if it is blank or its document conforms; it has an error exactly if
it is not blank and its document cannot be had or cannot be used. -/
theorem validateText_accepts (text : List Char) :
    (validateText text = [] ↔
      Blank (Text.dropBom text) ∨
        ∃ root es, parse (Text.dropBom text) = .ok root ∧ root.Holds (.map es) ∧ Conforms es) ∧
    ((∃ f ∈ validateText text, f.severity = .error) ↔
      ¬ Blank (Text.dropBom text) ∧
        ((∃ e, parse (Text.dropBom text) = .error e) ∨
          ∃ root, parse (Text.dropBom text) = .ok root ∧
            ((¬ ∃ es, root.Holds (.map es)) ∨ ∃ es, root.Holds (.map es) ∧ Fails es))) ∧
    ∀ f ∈ validateText text, f.kind = .syntaxError ∨ f.kind = .rootNotObject →
      validateText text = [f] := by
  have hverdict := verdict_validateText text
  exact ⟨hverdict.eq_nil_iff, hverdict.exists_error_iff,
    fun f hf hkind => hverdict.eq_singleton hf hkind⟩

end AppConfig
