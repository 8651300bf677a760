import AppConfig.Proofs.Validation.Table
import Mathlib.Data.Option.Basic
import Mathlib.Logic.Relation

/-!
# AppConfig.Proofs.Validation.Footprint

The validator looks at the paths of the schema and at nothing else. What it looks at are the values
there, and of them only the type and the sign of their content (`Value.Alike`); `validate_congr`
says that this is all. From it follows that a document may be rewritten at will elsewhere:

* `Value.Wrapped` — a value, or one inside it, gets one more tag.
* `Reworked known` — the entries of a mapping change places, an entry under a key that is not
  among `known` comes in, or a value gets a tag.
* `Rewritten` — the root is reworked, or the settings are.
-/

namespace AppConfig

open Yaml (Value Tag)

namespace Yaml.Value

/-- `w` is `v` with one more tag, around it or around a value inside it. Keys are not touched. -/
inductive Wrapped : Value → Value → Prop where
  | here (t : Tag) (v : Value) : Wrapped v (.tagged t v)
  | content (t : Tag) {v w : Value} : Wrapped v w → Wrapped (.tagged t v) (.tagged t w)
  | item {before behind : List Value} {v w : Value} : Wrapped v w →
      Wrapped (.seq (before ++ v :: behind)) (.seq (before ++ w :: behind))
  | entry {before behind : List (Value × Value)} {k v w : Value} : Wrapped v w →
      Wrapped (.map (before ++ (k, v) :: behind)) (.map (before ++ (k, w) :: behind))

/-- Values that no check tells apart. -/
structure Alike (v w : Value) : Prop where
  accepts : ∀ type, FieldType.accepts type v = FieldType.accepts type w
  negative : v.IsNegative ↔ w.IsNegative

end Yaml.Value

open Yaml.Value (Wrapped Alike)

/-- One change to a mapping that leaves what is under the keys `known` as it is, tags aside. -/
inductive Reworked (known : List String) : Mapping → Mapping → Prop where
  | permuted {m m' : Mapping} : (m.map (·.1)).Nodup → m.Perm m' → Reworked known m m'
  | inserted {before behind : Mapping} {key value : Value} : (∀ k ∈ known, key ≠ .str k) →
      Reworked known (before ++ behind) (before ++ (key, value) :: behind)
  | wrapped {before behind : Mapping} {key v w : Value} : Wrapped v w →
      Reworked known (before ++ (key, v) :: behind) (before ++ (key, w) :: behind)

namespace Schema

def rootKeys : List String := topLevel.map (·.key)

def settingsKeys : List String := (nested "settings").map (·.key)

example : rootKeys = ["name", "version", "enabled", "settings"] := by decide

example : settingsKeys = ["timeout", "retries"] := by decide

end Schema

/-- One change to a document that leaves the paths of the schema as they are, tags aside. -/
inductive Rewritten : Mapping → Mapping → Prop where
  | root {m m' : Mapping} : Reworked Schema.rootKeys m m' → Rewritten m m'
  | settings {before behind es es' : Mapping} {v w : Value} : v.Holds (.map es) →
      w.Holds (.map es') → Reworked Schema.settingsKeys es es' →
      Rewritten (before ++ (.str "settings", v) :: behind)
        (before ++ (.str "settings", w) :: behind)

/-! ## What the validator looks at -/

namespace Schema

variable {m m' : Mapping}

theorem resolve_of_required {f : Field} (hf : f ∈ fields) (h : f.required = true) :
    resolve m f = Value.get? m f.key := by
  rw [resolve, (required_at_root f hf h).1]

/-- Findings depend on the values at the paths of the schema, and on them only through their types
and signs. -/
theorem validate_congr (text : List Char)
    (h : ∀ f ∈ fields, Option.Rel Alike (resolve m f) (resolve m' f)) :
    validate m text = validate m' text := by
  have hmissing : ∀ f ∈ fields, isMissing m f = isMissing m' f := by
    intro f hf
    cases hr : f.required with
    | false => simp [isMissing, hr]
    | true =>
      have hrel := h f hf
      rw [resolve_of_required hf hr, resolve_of_required hf hr] at hrel
      rw [isMissing, isMissing]
      generalize Value.get? m f.key = a, Value.get? m' f.key = b at hrel ⊢
      cases hrel <;> rfl
  have hmistyped : ∀ f ∈ fields, isMistyped m f = isMistyped m' f := by
    intro f hf
    have hrel := h f hf
    rw [isMistyped, isMistyped]
    generalize resolve m f = a, resolve m' f = b at hrel ⊢
    cases hrel with
    | none => rfl
    | some hv => simp [hv.accepts]
  have hbelow : ∀ f ∈ fields, isBelowBound m f = isBelowBound m' f := by
    intro f hf
    have hrel := h f hf
    rw [isBelowBound, isBelowBound]
    generalize resolve m f = a, resolve m' f = b at hrel ⊢
    cases hrel with
    | none => rfl
    | some hv => simp [hv.negative]
  rw [validate_eq_findings, validate_eq_findings, findings, findings, List.filter_congr hmissing,
    List.filter_congr hmistyped, List.filter_congr hbelow]

end Schema

/-! ## Values with more tags -/

namespace Yaml.Value

theorem Alike.of_untagged {v w : Value} (h : v.untagged = w.untagged) : Alike v w := by
  constructor
  · intro type
    simp only [FieldType.accepts, h]
  · simp only [IsNegative, holds_iff, h]

theorem Alike.of_mappings {v w : Value} {es es' : List (Value × Value)} (hv : v.Holds (.map es))
    (hw : w.Holds (.map es')) : Alike v w := by
  rw [holds_iff] at hv hw
  constructor
  · intro type
    cases type <;> simp [FieldType.accepts, hv, hw]
  · simp [IsNegative, holds_iff, hv, hw]

/-- Below its tags, a wrapped value is the same, or a collection with a wrapped value in it. -/
theorem Wrapped.untagged {v w : Value} (h : Wrapped v w) :
    v.untagged = w.untagged ∨
      (∃ xs ys, v.untagged = .seq xs ∧ w.untagged = .seq ys) ∨
      ∃ before behind k x y, v.untagged = .map (before ++ (k, x) :: behind) ∧
        w.untagged = .map (before ++ (k, y) :: behind) ∧ Wrapped x y := by
  induction h with
  | here t v => exact .inl rfl
  | content t _ ih => exact ih
  | item _ _ => exact .inr (.inl ⟨_, _, rfl, rfl⟩)
  | entry hxy _ => exact .inr (.inr ⟨_, _, _, _, _, rfl, rfl, hxy⟩)

theorem Wrapped.alike {v w : Value} (h : Wrapped v w) : Alike v w := by
  rcases h.untagged with heq | ⟨xs, ys, hv, hw⟩ | ⟨before, behind, k, x, y, hv, hw, -⟩
  · exact .of_untagged heq
  · constructor
    · intro type
      cases type <;> simp [FieldType.accepts, hv, hw]
    · simp [IsNegative, holds_iff, hv, hw]
  · exact .of_mappings (holds_iff.mpr hv) (holds_iff.mpr hw)

theorem rel_alike {o o' : Option Value} (h : Option.Rel (Relation.ReflGen Wrapped) o o') :
    Option.Rel Alike o o' := by
  cases h with
  | none => exact .none
  | some h =>
    cases h with
    | refl => exact .some (.of_untagged rfl)
    | single h => exact .some h.alike

theorem rel_refl {α : Type} {r : α → α → Prop} (o : Option α) :
    Option.Rel (Relation.ReflGen r) o o := by
  cases o with
  | none => exact .none
  | some a => exact .some .refl

/-- The entries of a wrapped mapping are the same, or one of their values is wrapped. -/
theorem Wrapped.entries? {v w : Value} (h : Wrapped v w) (known : List String) :
    Option.Rel (Relation.ReflGen (Reworked known)) v.entries? w.entries? := by
  rcases h.untagged with heq | ⟨xs, ys, hv, hw⟩ | ⟨before, behind, k, x, y, hv, hw, hxy⟩
  · rw [Value.entries?, Value.entries?, heq]
    exact rel_refl _
  · rw [Value.entries?, Value.entries?, hv, hw]
    exact .none
  · rw [Value.entries?, Value.entries?, hv, hw]
    exact .some (.single (.wrapped hxy))

/-! ## Lookups -/

variable {key : String}

theorem isKey_iff {k : Value} : k.isKey key = true ↔ k = .str key := by
  cases k <;> simp [isKey]

theorem get?_append (es es' : List (Value × Value)) :
    get? (es ++ es') key = (get? es key).or (get? es' key) := by
  rw [get?, List.find?_append, Option.map_or]
  rfl

theorem get?_cons_of_ne {k v : Value} (h : k ≠ .str key) (es : List (Value × Value)) :
    get? ((k, v) :: es) key = get? es key := by
  have hkey : k.isKey key = false := by rwa [← Bool.not_eq_true, isKey_iff]
  rw [get?, List.find?_cons_of_neg (by simp [hkey])]
  rfl

theorem get?_cons_self (v : Value) (es : List (Value × Value)) :
    get? ((.str key, v) :: es) key = some v := by
  simp [get?, isKey]

/-- With distinct keys, the value under a key is the one that stands in an entry with it. -/
theorem get?_eq_some_iff_mem {es : List (Value × Value)} (h : (es.map (·.1)).Nodup) {v : Value} :
    get? es key = some v ↔ (.str key, v) ∈ es := by
  induction es with
  | nil => simp [get?]
  | cons e es ih =>
    obtain ⟨k, w⟩ := e
    obtain ⟨hk, hes⟩ := List.nodup_cons.mp h
    by_cases hkey : k = .str key
    · subst hkey
      have hno : (.str key, v) ∉ es := fun hmem => hk (List.mem_map_of_mem (f := (·.1)) hmem)
      simp [get?_cons_self, hno, eq_comm]
    · simp [get?_cons_of_ne hkey, ih hes, hkey, eq_comm]

theorem get?_perm {es es' : List (Value × Value)} (h : (es.map (·.1)).Nodup) (hp : es.Perm es') :
    get? es key = get? es' key := by
  have h' : (es'.map (·.1)).Nodup := (hp.map _).nodup_iff.mp h
  apply Option.ext
  intro v
  rw [get?_eq_some_iff_mem h, get?_eq_some_iff_mem h', hp.mem_iff]

end Yaml.Value

theorem Reworked.get? {known : List String} {m m' : Mapping} (h : Reworked known m m')
    {key : String} (hkey : key ∈ known) :
    Option.Rel (Relation.ReflGen Wrapped) (Value.get? m key) (Value.get? m' key) := by
  cases h with
  | permuted hnodup hp =>
    rw [Value.get?_perm hnodup hp]
    exact Value.rel_refl _
  | inserted hother =>
    rw [Value.get?_append, Value.get?_append, Value.get?_cons_of_ne (hother key hkey)]
    exact Value.rel_refl _
  | @wrapped before behind k v w hvw =>
    rw [Value.get?_append, Value.get?_append]
    cases Value.get? before key with
    | some x => exact Value.rel_refl _
    | none =>
      by_cases hk : k = .str key
      · subst hk
        rw [Value.get?_cons_self, Value.get?_cons_self]
        exact .some (.single hvw)
      · rw [Value.get?_cons_of_ne hk, Value.get?_cons_of_ne hk]
        exact Value.rel_refl _

/-! ## Documents -/

namespace Schema

theorem places : ∀ f ∈ fields, (f.parent = none ∧ f.key ∈ rootKeys) ∨
    (f.parent = some "settings" ∧ f.key ∈ settingsKeys) := by
  decide

/-- The entries that the nested fields are looked up in. -/
def settings? (document : Mapping) : Option Mapping :=
  (Value.get? document "settings").bind Value.entries?

end Schema

open Schema (settings? rootKeys settingsKeys)

namespace Rewritten

variable {m m' : Mapping} {key : String}

theorem get? (h : Rewritten m m') (hkey : key ∈ rootKeys) :
    Option.Rel Alike (Value.get? m key) (Value.get? m' key) := by
  cases h with
  | root h => exact Value.rel_alike (h.get? hkey)
  | @settings before behind es es' v w hv hw _ =>
    rw [Value.get?_append, Value.get?_append]
    cases Value.get? before key with
    | some x => exact Value.rel_alike (Value.rel_refl _)
    | none =>
      by_cases hs : "settings" = key
      · subst hs
        rw [Value.get?_cons_self, Value.get?_cons_self]
        exact .some (.of_mappings hv hw)
      · have hne : Value.str "settings" ≠ .str key := by simpa using hs
        rw [Value.get?_cons_of_ne hne, Value.get?_cons_of_ne hne]
        exact Value.rel_alike (Value.rel_refl _)

theorem settings? (h : Rewritten m m') :
    Option.Rel (Relation.ReflGen (Reworked settingsKeys)) (settings? m) (settings? m') := by
  rw [Schema.settings?, Schema.settings?]
  cases h with
  | root h =>
    have hrel := h.get? (show "settings" ∈ rootKeys by decide)
    generalize Value.get? m "settings" = a, Value.get? m' "settings" = b at hrel ⊢
    cases hrel with
    | none => exact .none
    | some hvw =>
      cases hvw with
      | refl => exact Value.rel_refl _
      | single hvw => exact hvw.entries? settingsKeys
  | @settings before behind es es' v w hv hw hes =>
    rw [Value.get?_append, Value.get?_append]
    cases Value.get? before "settings" with
    | some x => exact Value.rel_refl _
    | none =>
      rw [Value.get?_cons_self, Value.get?_cons_self]
      simp only [Option.none_or, Option.bind_some, Value.entries?_eq_some_iff.mpr hv,
        Value.entries?_eq_some_iff.mpr hw]
      exact .some (.single hes)

/-- At every path of the schema the two documents have values that no check tells apart, or none. -/
theorem resolve (h : Rewritten m m') {f : Field} (hf : f ∈ Schema.fields) :
    Option.Rel Alike (Schema.resolve m f) (Schema.resolve m' f) := by
  rcases Schema.places f hf with ⟨hparent, hkey⟩ | ⟨hparent, hkey⟩
  · rw [Schema.resolve, Schema.resolve, hparent]
    exact h.get? hkey
  · rw [Schema.resolve_nested hparent, Schema.resolve_nested hparent]
    have hrel := h.settings?
    rw [Schema.settings?, Schema.settings?] at hrel
    generalize (Value.get? m "settings").bind Value.entries? = a,
      (Value.get? m' "settings").bind Value.entries? = b at hrel ⊢
    cases hrel with
    | none => exact .none
    | some hes =>
      cases hes with
      | refl => exact Value.rel_alike (Value.rel_refl _)
      | single hes => exact Value.rel_alike (hes.get? hkey)

theorem validate (h : Rewritten m m') (text : List Char) :
    AppConfig.validate m text = AppConfig.validate m' text :=
  Schema.validate_congr text fun _ => h.resolve

end Rewritten

/-- The validator looks at the paths of the schema only: any number of changes elsewhere, made or
taken back, leaves every finding as it is. -/
theorem validate_ignores_rest {m m' : Mapping} (h : Relation.EqvGen Rewritten m m')
    (text : List Char) : validate m text = validate m' text := by
  induction h with
  | rel m m' h => exact h.validate text
  | refl m => rfl
  | symm m m' _ ih => exact ih.symm
  | trans m₁ m₂ m₃ _ _ ih₁ ih₂ => exact ih₁.trans ih₂

/-- Two entries change places, a value under `!t name` comes in, the settings and the value in them
get a tag, and an entry under a number comes into the settings. -/
theorem validate_ignores_tagged_name :
    validate [(.str "name", .str "app"), (.str "version", .int 1),
        (.str "settings", .map [(.str "retries", .int (-1))])] "version: 1\n".toList =
      validate [(.tagged ⟨"t"⟩ (.str "name"), .null), (.str "version", .int 1),
        (.str "name", .str "app"),
        (.str "settings", .tagged ⟨"u"⟩
          (.map [(.int 5, .null), (.str "retries", .tagged ⟨"v"⟩ (.int (-1)))]))]
        "version: 1\n".toList := by
  apply validate_ignores_rest
  have hinner : Wrapped (.map [(.str "retries", .int (-1))])
      (.map [(.str "retries", .tagged ⟨"v"⟩ (.int (-1)))]) :=
    @Wrapped.entry [] [] _ _ _ (.here ⟨"v"⟩ _)
  have hsettings : Reworked settingsKeys [(.str "retries", .tagged ⟨"v"⟩ (.int (-1)))]
      [(.int 5, .null), (.str "retries", .tagged ⟨"v"⟩ (.int (-1)))] :=
    @Reworked.inserted _ [] _ _ _ (by simp)
  refine .trans _ _ _ (.rel _ _ (.root (.permuted (by simp) (.swap _ _ _)))) ?_
  refine .trans _ _ _
    (.rel _ _ (.root (@Reworked.inserted _ [] _ (.tagged ⟨"t"⟩ (.str "name")) .null (by simp)))) ?_
  refine .trans _ _ _ (.rel _ _ (.root (@Reworked.wrapped _ [_, _, _] [] _ _ _ hinner))) ?_
  exact .rel _ _ (@Rewritten.settings [_, _, _] [] _ _ _ _ (.bare (by simp))
    (.tagged ⟨"u"⟩ (.bare (by simp))) hsettings)

end AppConfig
