import AppConfig.Proofs.Validation.Placement

/-!
# AppConfig.Proofs.Validation.Table

The validator names keys, types, severities and nesting of its own; the schema declares them in a
table. Here the table is read by an interpreter that knows no field by name but the one with a
bound (`Schema.findings`), and the two are shown to report the same.

* `Schema.resolve` — the value at the place of a field.
* `Schema.findings` — three passes over the table: what is missing, what has the wrong type, what
  lies below its bound.
* `Finding.namedPath` — the path that a message quotes. No two findings of a document quote the
  same one.
-/

namespace AppConfig

open Yaml (Value)

namespace FieldType

/-- A type as messages ask for it. -/
def wanted : FieldType → String
  | .string => "a string"
  | .boolean => "a boolean (true or false)"
  | .number => "a number"
  | .object => "an object"

end FieldType

namespace Field

/-- A document is of no use without its required fields, nor with an object that is none. -/
def severity (f : Field) : Severity := if f.required || f.type == .object then .error else .warning

/-- The one field with a bound: it may not be negative. -/
def isBounded (f : Field) : Bool := f.path == "settings.retries"

def mistypedFinding (text : List Char) (f : Field) : Finding :=
  ⟨f.severity, .typeMismatch, locateField text f.key.toList,
    "\"" ++ f.path ++ "\" must be " ++ f.type.wanted⟩

def boundFinding (text : List Char) (f : Field) : Finding :=
  ⟨.warning, .outOfRange, locateField text f.key.toList,
    "\"" ++ f.path ++ "\" must be " ++ "≥ 0"⟩

end Field

instance (v : Value) : Decidable v.IsNegative := decidable_of_iff _ (Value.isNegative_iff v)

namespace Schema

/-- The value at the place of a field: under its key at the root, or under its key in the mapping
that the value of its parent is below any tags. -/
def resolve (document : Mapping) (f : Field) : Option Value :=
  match f.parent with
  | none => Value.get? document f.key
  | some parent =>
    ((Value.get? document parent).bind Value.entries?).bind fun entries => Value.get? entries f.key

/-- A required field whose key is absent. -/
def isMissing (document : Mapping) (f : Field) : Bool :=
  f.required && (Value.get? document f.key).isNone

def isMistyped (document : Mapping) (f : Field) : Bool :=
  (resolve document f).any fun v => !f.type.accepts v

def isBelowBound (document : Mapping) (f : Field) : Bool :=
  f.isBounded && (resolve document f).any fun v => v.IsNegative

/-- What the table says about a document. -/
def findings (document : Mapping) (text : List Char) : List Finding :=
  (fields.filter (isMissing document)).map (absent ·.key) ++
  (fields.filter (isMistyped document)).map (Field.mistypedFinding text) ++
  (fields.filter (isBelowBound document)).map (Field.boundFinding text)

/-! ## The validator and the table -/

section Agreement

variable {document : Mapping} {text : List Char}

/-- The finding of a pass over the table for one field. -/
def report (p : Field → Bool) (h : Field → Finding) (f : Field) : List Finding :=
  if p f then [h f] else []

theorem filter_map_eq_flatMap (p : Field → Bool) (h : Field → Finding) (fs : List Field) :
    (fs.filter p).map h = fs.flatMap (report p h) := by
  induction fs with
  | nil => rfl
  | cons f fs ih =>
    by_cases hp : p f = true
    · simp [report, hp, ih]
    · simp [report, hp, ih]

theorem missingFields_eq :
    missingFields document = (fields.filter (isMissing document)).map (absent ·.key) := by
  rw [missingFields, required, List.filter_filter]
  congr 1
  apply List.filter_congr
  intro f _
  exact Bool.and_comm _ _

theorem mistyped_eq {entries : Mapping} {f : Field}
    (h : resolve document f = Value.get? entries f.key) :
    mistyped entries text f.key f.type f.severity
        ("\"" ++ f.path ++ "\" must be " ++ f.type.wanted) =
      report (isMistyped document) (Field.mistypedFinding text) f := by
  simp only [mistyped, report, isMistyped, h]
  cases Value.get? entries f.key with
  | none => rfl
  | some v =>
    cases ha : f.type.accepts v with
    | true => simp [ha]
    | false => simp [ha, Field.mistypedFinding]

/-- A field of the table by its number. -/
def row (i : Fin 6) : Field := fields.get i

theorem flatMap_fields (g : Field → List Finding) :
    fields.flatMap g =
      g (row 0) ++ (g (row 1) ++ (g (row 2) ++ (g (row 3) ++ (g (row 4) ++ (g (row 5) ++ []))))) :=
  rfl

theorem flatMap_bound :
    fields.flatMap (report (isBelowBound document) (Field.boundFinding text)) =
      report (isBelowBound document) (Field.boundFinding text) (row 5) := by
  have hnone (i : Fin 6) (hi : i ≠ 5) :
      report (isBelowBound document) (Field.boundFinding text) (row i) = [] := by
    have hbound : ∀ i, i ≠ 5 → (row i).isBounded = false := by decide
    simp [report, isBelowBound, hbound i hi]
  rw [flatMap_fields, hnone 0 (by decide), hnone 1 (by decide), hnone 2 (by decide),
    hnone 3 (by decide), hnone 4 (by decide)]
  simp

/-- What is nested is looked for below the settings. -/
theorem resolve_nested {f : Field} (h : f.parent = some "settings") :
    resolve document f =
      ((Value.get? document "settings").bind Value.entries?).bind fun entries =>
        Value.get? entries f.key := by
  rw [resolve, h]

theorem report_of_resolve_none (text : List Char) {f : Field} (h : resolve document f = none) :
    report (isMistyped document) (Field.mistypedFinding text) f = [] ∧
      report (isBelowBound document) (Field.boundFinding text) f = [] := by
  simp [report, isMistyped, isBelowBound, h]

theorem validateSettings_eq {entries : Mapping}
    (h : (Value.get? document "settings").bind Value.entries? = some entries) :
    validateSettings entries text =
      report (isMistyped document) (Field.mistypedFinding text) (row 4) ++
        report (isMistyped document) (Field.mistypedFinding text) (row 5) ++
          report (isBelowBound document) (Field.boundFinding text) (row 5) := by
  have hnested {f : Field} (hf : f.parent = some "settings") :
      resolve document f = Value.get? entries f.key := by
    rw [resolve_nested hf, h, Option.bind_some]
  have htimeout : resolve document (row 4) = Value.get? entries "timeout" := hnested (by decide)
  have hretries : resolve document (row 5) = Value.get? entries "retries" := hnested (by decide)
  have hbound : (row 5).isBounded = true := by decide
  rw [validateSettings, ← mistyped_eq htimeout, ← mistyped_eq hretries]
  congr 1
  rw [report, isBelowBound, hretries, hbound, Bool.true_and]
  cases Value.get? entries "retries" with
  | none => rfl
  | some v =>
    simp only [Option.any_some, decide_eq_true_eq, ← Value.isNegative_iff]
    rfl

theorem accepts_object (v : Value) : FieldType.accepts .object v = v.entries?.isSome := by
  simp only [FieldType.accepts, Value.entries?]
  cases v.untagged <;> rfl

theorem report_settings :
    report (isMistyped document) (Field.mistypedFinding text) (row 3) =
      if (Value.get? document "settings").any fun v => !v.entries?.isSome then
        [.error .typeMismatch (locateField text "settings".toList)
          "\"settings\" must be an object"]
      else [] := by
  simp only [← accepts_object]
  rfl

theorem validate_eq_findings (document : Mapping) (text : List Char) :
    validate document text = findings document text := by
  have hname : mistyped document text "name" .string .error "\"name\" must be a string" = _ :=
    mistyped_eq (f := row 0) rfl
  have hversion : mistyped document text "version" .string .error
      "\"version\" must be a string" = _ :=
    mistyped_eq (f := row 1) rfl
  have henabled : mistyped document text "enabled" .boolean .warning
      "\"enabled\" must be a boolean (true or false)" = _ :=
    mistyped_eq (f := row 2) rfl
  rw [validate, findings, missingFields_eq, filter_map_eq_flatMap (isMistyped document),
    filter_map_eq_flatMap (isBelowBound document), flatMap_fields, flatMap_bound, hname, hversion,
    henabled, report_settings]
  simp only [List.append_assoc, List.nil_append]
  -- the settings are a mapping, and the rest is about what is in them, or there is no such mapping
  cases hbelow : (Value.get? document "settings").bind Value.entries? with
  | some entries =>
    obtain ⟨v, hv, he⟩ := Option.bind_eq_some_iff.mp hbelow
    simp [hv, he, validateSettings_eq hbelow]
  | none =>
    have hnested {f : Field} (hf : f.parent = some "settings") : resolve document f = none := by
      rw [resolve_nested hf, hbelow, Option.bind_none]
    obtain ⟨htimeout, -⟩ := report_of_resolve_none text (hnested (f := row 4) (by decide))
    obtain ⟨hretries, hbound⟩ := report_of_resolve_none text (hnested (f := row 5) (by decide))
    rw [htimeout, hretries, hbound]
    cases hv : Value.get? document "settings" with
    | none => simp
    | some v =>
      have he : v.entries? = none := by rwa [hv] at hbelow
      simp [he]

end Agreement

/-! ## One finding for each path -/

theorem required_at_root : ∀ f ∈ fields, f.required = true → f.parent = none ∧ f.key = f.path := by
  decide

theorem quote_not_mem_key : ∀ f ∈ fields, '"' ∉ f.key.toList := by
  decide

theorem type_of_isBounded : ∀ f ∈ fields, f.isBounded = true → f.type = .number := by
  decide

section Exclusion

variable {document : Mapping} {f : Field}

theorem resolve_of_isMissing (hf : f ∈ fields) (h : isMissing document f = true) :
    resolve document f = none := by
  obtain ⟨hrequired, hnone⟩ := Bool.and_eq_true_iff.mp h
  rw [resolve, (required_at_root f hf hrequired).1]
  exact Option.isNone_iff_eq_none.mp hnone

/-- What is below its bound is a number, and that is the type it should have. -/
theorem isMistyped_of_isBelowBound (hf : f ∈ fields) (h : isBelowBound document f = true) :
    isMistyped document f = false := by
  obtain ⟨hbounded, hbelow⟩ := Bool.and_eq_true_iff.mp h
  obtain ⟨v, hv, hnegative⟩ := (Option.any_eq_true _ _).mp hbelow
  have hnumber : v.IsNumber := by
    rcases of_decide_eq_true hnegative with ⟨i, hi, -⟩ | ⟨x, hx, -⟩
    · exact .inl ⟨i, hi⟩
    · exact .inr ⟨x, hx⟩
  simp [isMistyped, hv, type_of_isBounded f hf hbounded, (Value.accepts_number_iff v).mpr hnumber]

end Exclusion

end Schema

/-- The text between the first two quotation marks of a message. -/
def quotation (message : String) : String :=
  String.ofList (((message.toList.dropWhile (· != '"')).drop 1).takeWhile (· != '"'))

/-- The path that a finding is about: the one that its message quotes. -/
def Finding.namedPath (f : Finding) : String := quotation f.message

theorem quotation_eq {message path : String} (before behind : List Char)
    (hbefore : '"' ∉ before) (hpath : '"' ∉ path.toList)
    (h : message.toList = before ++ '"' :: (path.toList ++ '"' :: behind)) :
    quotation message = path := by
  have hne {cs : List Char} (hcs : '"' ∉ cs) : ∀ c ∈ cs, (c != '"') = true := by
    intro c hc
    have : c ≠ '"' := fun heq => hcs (heq ▸ hc)
    simpa using this
  have hquote (cs : List Char) : ∀ c ∈ ('"' :: cs).head?, (c != '"') = false := by
    rintro c ⟨⟩
    rfl
  rw [quotation, h, dropWhile_run (hne hbefore) (hquote _), List.drop_one, List.tail_cons,
    takeWhile_run (hne hpath) (hquote _), String.ofList_toList]

namespace Schema

theorem quotation_absent : ∀ f ∈ fields, f.required = true →
    quotation (absent f.key).message = f.path := by
  intro f hf hrequired
  rw [← (required_at_root f hf hrequired).2]
  refine quotation_eq "required field ".toList " is missing".toList (by decide) ?_ ?_
  · exact quote_not_mem_key f hf
  · simp [absent, Finding.error]

theorem quotation_must_be {f : Field} (hf : f ∈ fields) (wanted : String) :
    quotation ("\"" ++ f.path ++ "\" must be " ++ wanted) = f.path :=
  quotation_eq [] (" must be ".toList ++ wanted.toList) (by decide) (quote_not_mem_path f hf)
    (by simp)

/-- The fields with a finding, in the order of the findings. -/
def reported (document : Mapping) : List Field :=
  fields.filter (isMissing document) ++ fields.filter (isMistyped document) ++
    fields.filter (isBelowBound document)

theorem mem_fields_of_mem_reported {document : Mapping} {f : Field} (h : f ∈ reported document) :
    f ∈ fields := by
  simp only [reported, List.mem_append, List.mem_filter] at h
  rcases h with (⟨hf, -⟩ | ⟨hf, -⟩) | ⟨hf, -⟩
  · exact hf
  · exact hf
  · exact hf

theorem map_namedPath_findings (document : Mapping) (text : List Char) :
    (findings document text).map Finding.namedPath = (reported document).map (·.path) := by
  simp only [findings, reported, List.map_append, List.map_map]
  refine congrArg₂ (· ++ ·) (congrArg₂ (· ++ ·) ?_ ?_) ?_
  · apply List.map_congr_left
    intro f hf
    obtain ⟨hf, hmissing⟩ := List.mem_filter.mp hf
    exact quotation_absent f hf (Bool.and_eq_true_iff.mp hmissing).1
  · apply List.map_congr_left
    intro f hf
    exact quotation_must_be (List.mem_filter.mp hf).1 f.type.wanted
  · apply List.map_congr_left
    intro f hf
    exact quotation_must_be (List.mem_filter.mp hf).1 "≥ 0"

theorem nodup_reported (document : Mapping) : (reported document).Nodup := by
  have hfields : fields.Nodup := by decide
  simp only [reported, List.nodup_append, List.mem_append, List.mem_filter]
  refine ⟨⟨hfields.filter _, hfields.filter _, ?_⟩, hfields.filter _, ?_⟩
  · rintro f ⟨hf, hmissing⟩ _ ⟨-, hmistyped⟩ rfl
    simp [isMistyped, resolve_of_isMissing hf hmissing] at hmistyped
  · rintro f (⟨hf, hmissing⟩ | ⟨hf, hmistyped⟩) _ ⟨-, hbelow⟩ rfl
    · simp [isBelowBound, resolve_of_isMissing hf hmissing] at hbelow
    · rw [isMistyped_of_isBelowBound hf hbelow] at hmistyped
      contradiction

end Schema

/-- **The validator agrees with the table.** It reports what the table says of a document, in the
order of the table; every finding names one path of the table, and no two name the same. -/
theorem validate_agrees_with_table (document : Mapping) (text : List Char) :
    validate document text = Schema.findings document text ∧
    (∀ f ∈ validate document text, ∃ field ∈ Schema.fields, f.namedPath = field.path) ∧
    ((validate document text).map Finding.namedPath).Nodup := by
  have hpaths := Schema.map_namedPath_findings document text
  rw [Schema.validate_eq_findings]
  refine ⟨rfl, ?_, ?_⟩
  · intro f hf
    have hmem : f.namedPath ∈ (Schema.findings document text).map Finding.namedPath :=
      List.mem_map_of_mem hf
    rw [hpaths] at hmem
    obtain ⟨field, hfield, hpath⟩ := List.mem_map.mp hmem
    exact ⟨field, Schema.mem_fields_of_mem_reported hfield, hpath.symm⟩
  · rw [hpaths]
    refine List.Nodup.map_on ?_ (Schema.nodup_reported document)
    intro f hf g hg hpath
    exact Schema.eq_of_path f (Schema.mem_fields_of_mem_reported hf) g
      (Schema.mem_fields_of_mem_reported hg) hpath

end AppConfig
