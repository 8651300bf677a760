import AppConfig.Proofs.Decimal.Sign
import AppConfig.Schema
import AppConfig.Validate

/-!
# AppConfig.Proofs.Yaml.Content

The content of a value below its tags, as a relation: `Holds v c`. The types of the schema are
stated with it (`IsString`, `IsBoolean`, `IsNumber`), and each test of the validator is shown to
decide one of them.
-/

namespace AppConfig.Yaml.Value

/-- `v` is `c`, or `c` below any number of tags; `c` itself bears none. -/
inductive Holds : Value → Value → Prop where
  | bare {c : Value} : (∀ t v, c ≠ .tagged t v) → Holds c c
  | tagged (t : Tag) {v c : Value} : Holds v c → Holds (.tagged t v) c

theorem holds_untagged (v : Value) : Holds v v.untagged := by
  fun_induction untagged v with
  | case1 t v ih => exact .tagged t ih
  | case2 v h => exact .bare fun t u he => h t u he

theorem Holds.untagged_eq {v c : Value} (h : Holds v c) : v.untagged = c := by
  induction h with
  | @bare c hc =>
    cases c with
    | tagged t v => exact absurd rfl (hc t v)
    | _ => rfl
  | tagged t _ ih => exact ih

theorem holds_iff {v c : Value} : Holds v c ↔ v.untagged = c :=
  ⟨Holds.untagged_eq, fun h => h ▸ holds_untagged v⟩

theorem Holds.unique {v c d : Value} (hc : Holds v c) (hd : Holds v d) : c = d :=
  hc.untagged_eq.symm.trans hd.untagged_eq

def IsString (v : Value) : Prop := ∃ s, Holds v (.str s)

def IsBoolean (v : Value) : Prop := ∃ b, Holds v (.bool b)

def IsNumber (v : Value) : Prop := (∃ i, Holds v (.int i)) ∨ ∃ x, Holds v (.float x)

/-- A number strictly below zero. -/
def IsNegative (v : Value) : Prop :=
  (∃ i, Holds v (.int i) ∧ i < 0) ∨ ∃ x, Holds v (.float x) ∧ x.BelowZero

theorem accepts_string_iff (v : Value) : FieldType.accepts .string v = true ↔ v.IsString := by
  simp only [IsString, holds_iff, FieldType.accepts]
  cases v.untagged <;> simp

theorem accepts_boolean_iff (v : Value) : FieldType.accepts .boolean v = true ↔ v.IsBoolean := by
  simp only [IsBoolean, holds_iff, FieldType.accepts]
  cases v.untagged <;> simp

theorem accepts_number_iff (v : Value) : FieldType.accepts .number v = true ↔ v.IsNumber := by
  simp only [IsNumber, holds_iff, FieldType.accepts]
  cases v.untagged <;> simp

theorem isNegative_iff (v : Value) : AppConfig.isNegative v = true ↔ v.IsNegative := by
  simp only [IsNegative, holds_iff, AppConfig.isNegative]
  cases v.untagged <;> simp [Binary64.isNegative_iff]

theorem entries?_eq_some_iff {v : Value} {es : List (Value × Value)} :
    v.entries? = some es ↔ Holds v (.map es) := by
  simp only [holds_iff, entries?]
  cases v.untagged <;> simp

theorem entries?_eq_none_iff {v : Value} : v.entries? = none ↔ ¬ ∃ es, Holds v (.map es) := by
  simp only [← entries?_eq_some_iff]
  cases v.entries? <;> simp

end AppConfig.Yaml.Value
