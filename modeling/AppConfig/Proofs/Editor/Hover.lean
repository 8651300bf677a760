import AppConfig.Editor.Documents
import AppConfig.Proofs.Text.Pieces
import AppConfig.Proofs.Validation.Placement

/-!
# AppConfig.Proofs.Editor.Hover

A hover shows a field on the lines that declare its key, and on no others. The keys of the schema
are identifiers, so it makes no difference to them that a hover looks for identifiers only where the
validator takes any word: both put a field on the same line.
-/

namespace AppConfig

namespace Schema

theorem lookup_key : ∀ f ∈ fields, lookup f.key = some f := by
  decide

theorem lookup_eq_some_iff {key : String} {field : Field} :
    lookup key = some field ↔ field ∈ fields ∧ field.key = key := by
  constructor
  · intro h
    have hkey := List.find?_some h
    exact ⟨List.mem_of_find?_eq_some h, by simpa using hkey⟩
  · rintro ⟨hfield, rfl⟩
    exact lookup_key field hfield

end Schema

namespace Editor

/-! ## Identifiers -/

theorem isUpper_iff {c : Char} : c.isUpper = true ↔ 65 ≤ c.toNat ∧ c.toNat ≤ 90 :=
  decide_eq_true_iff

theorem isLower_iff {c : Char} : c.isLower = true ↔ 97 ≤ c.toNat ∧ c.toNat ≤ 122 := by
  change (decide (97 ≤ c.toNat) && decide (c.toNat ≤ 122)) = true ↔ _
  rw [Bool.and_eq_true, decide_eq_true_iff, decide_eq_true_iff]

theorem isKeyChar_of_isIdentChar (c : Char) (h : isIdentChar c = true) : isKeyChar c = true := by
  have hrange : 45 ≤ c.toNat ∧ c.toNat ≤ 122 ∧ c.toNat ≠ 58 := by
    change (c.isUpper || c.isLower || c.isDigit || c == '_' || c == '-') = true at h
    simp only [Bool.or_eq_true, beq_iff_eq, isUpper_iff, isLower_iff,
      Char.isDigit_iff_toNat] at h
    simp only [Char.reduceToNat] at h
    rcases h with (((hletter | hletter) | hdigit) | rfl) | rfl
    · omega
    · omega
    · omega
    · decide
    · decide
  rw [isKeyChar_iff]
  constructor
  · simp only [Text.isWhite, Bool.or_eq_false_iff, Bool.and_eq_false_iff, decide_eq_false_iff_not,
      beq_eq_false_iff_ne]
    omega
  · rintro rfl
    exact hrange.2.2 rfl

def isIdentifier (key : List Char) : Bool := key.all isIdentChar && key.head?.any isIdentStart

theorem identifier?_eq_some_iff {line indent key : List Char} :
    identifier? line = some (indent, key) ↔
      Declares line indent key ∧ isIdentifier key = true := by
  simp only [identifier?, Option.filter_eq_some_iff, isIdentifier, Bool.and_eq_true,
    List.all_eq_true, declaration?_eq_some_iff isKeyChar_of_isIdentChar, and_assoc]

theorem isIdentifier_key : ∀ f ∈ Schema.fields, isIdentifier f.key.toList = true := by
  decide

/-! ## The hover of a line -/

theorem describe_injective :
    ∀ f ∈ Schema.fields, ∀ g ∈ Schema.fields, describe f = describe g → f = g := by
  decide

/-- A line has a hover exactly if it declares the key of a field. -/
theorem hoverForLine_eq_some_iff {line : List Char} {n : Nat} {h : Hover} :
    hoverForLine line n = some h ↔
      ∃ field ∈ Schema.fields, ∃ indent, Declares line indent field.key.toList ∧
        h = ⟨describe field, .onLine n (Text.units indent)
          (Text.units indent + Text.units field.key.toList)⟩ := by
  unfold hoverForLine
  constructor
  · intro hhover
    split at hhover
    · contradiction
    · rename_i indent key hkey
      split at hhover
      · contradiction
      · rename_i field hlookup
        obtain ⟨hfield, hname⟩ := Schema.lookup_eq_some_iff.mp hlookup
        have hchars : field.key.toList = key := by rw [hname, String.toList_ofList]
        obtain rfl := Option.some.inj hhover
        subst hchars
        exact ⟨field, hfield, indent, (identifier?_eq_some_iff.mp hkey).1, rfl⟩
  · rintro ⟨field, hfield, indent, hdeclares, rfl⟩
    rw [identifier?_eq_some_iff.mpr ⟨hdeclares, isIdentifier_key field hfield⟩]
    simp only [String.ofList_toList, Schema.lookup_key field hfield]

/-! ## The hovers of a document -/

namespace Documents

variable {d : Documents} {uri : Uri} {doc : Document} {n : Nat} {field : Field}

/-- A hover on the line shows the documentation of the field. -/
def Shows (d : Documents) (uri : Uri) (n : Nat) (field : Field) : Prop :=
  ∃ h, d.hover uri n = some h ∧ h.contents = describe field

theorem hover_eq_some_iff (hopen : d.get? uri = some doc) {h : Hover} :
    d.hover uri n = some h ↔
      ∃ line, Text.line? doc.content n = some line ∧ hoverForLine line n = some h := by
  simp only [hover, hopen, Document.line?]
  cases Text.line? doc.content n with
  | none => simp
  | some line => simp

theorem shows_iff (hopen : d.get? uri = some doc) (hfield : field ∈ Schema.fields) :
    d.Shows uri n field ↔ DeclaresAt doc.content n field.key.toList := by
  simp only [Shows, hover_eq_some_iff hopen, hoverForLine_eq_some_iff]
  constructor
  · rintro ⟨h, ⟨line, hline, shown, hshown, indent, hdeclares, rfl⟩, hcontents⟩
    obtain rfl := describe_injective shown hshown field hfield hcontents
    exact ⟨line, indent, hline, hdeclares⟩
  · rintro ⟨line, indent, hline, hdeclares⟩
    exact ⟨_, ⟨line, hline, field, hfield, indent, hdeclares, rfl⟩, rfl⟩

/-- A field is found on the first line whose hover shows it. -/
theorem findFieldLine_eq_some_iff_shows (hopen : d.get? uri = some doc)
    (hfield : field ∈ Schema.fields) :
    findFieldLine doc.content field.key.toList = some n ↔
      d.Shows uri n field ∧ ∀ m < n, ¬ d.Shows uri m field := by
  simp only [shows_iff hopen hfield, findFieldLine_eq_some_iff]

/-- Findings and hovers put a field on the same line. -/
theorem findings_agree_with_hovers (hopen : d.get? uri = some doc)
    (hbom : doc.content.head? ≠ some Text.bom)
    (hlines : (Text.lines doc.content).length < wordLimit) :
    (∀ field ∈ Schema.fields, ∀ n,
      findFieldLine doc.content field.key.toList = some n ↔
        n < wordLimit ∧ d.Shows uri n field ∧ ∀ m < n, ¬ d.Shows uri m field) ∧
    ∀ f ∈ validateText doc.content, f.kind = .typeMismatch ∨ f.kind = .outOfRange →
      (∃ field ∈ Schema.fields, f.About field) ∧
      ∀ field ∈ Schema.fields, f.About field →
        ∀ n, findFieldLine doc.content field.key.toList = some n →
          f.line = n ∧ d.Shows uri f.line field := by
  have hfound {field : Field} {n : Nat} (hfield : field ∈ Schema.fields) :=
    findFieldLine_eq_some_iff_shows (n := n) hopen hfield
  constructor
  · intro field hfield n
    rw [hfound hfield, iff_and_self]
    rintro ⟨hshows, -⟩
    exact ((shows_iff hopen hfield).mp hshows).lt_length.trans hlines
  · intro f hf hkind
    obtain ⟨field, hfield, habout, hline⟩ := placed_of_mem_validateText hf hkind
    rw [Text.dropBom_eq_self hbom] at hline
    refine ⟨⟨field, hfield, habout⟩, fun other hother habout' n hn => ?_⟩
    obtain rfl := habout.unique hfield hother habout'
    have hn' : f.line = n := by rw [hline, locateField, hn, Option.getD_some]
    rw [hn']
    exact ⟨rfl, ((hfound hfield).mp hn).1⟩

/-- The first line and the last one look like declarations of fields that stand elsewhere. -/
def decoyText : List Char :=
  "names: 1\nname : app\nversion: '2'\nsettings:\n  retries: -2\nretries: x\n".toList

def decoys : Documents := (start 0).update "file:///app.yaml" 1 decoyText

theorem findings_agree_with_hovers_decoys :
    decoys.get? "file:///app.yaml" = some ⟨1, decoyText⟩ ∧ decoyText.head? ≠ some Text.bom ∧
      (Text.lines decoyText).length < wordLimit ∧
      ∃ f ∈ validateText decoyText, f.kind = .outOfRange ∧
        ∃ field ∈ Schema.fields, f.About field ∧ field.key = "retries" ∧ f.line = 4 ∧
          decoys.Shows "file:///app.yaml" f.line field ∧
          ∀ m < 4, ¬ decoys.Shows "file:///app.yaml" m field := by
  have hopen : decoys.get? "file:///app.yaml" = some ⟨1, decoyText⟩ := rfl
  have hbom : decoyText.head? ≠ some Text.bom := by decide
  have hlines : (Text.lines decoyText).length < wordLimit := by decide
  have hfinding : ⟨.warning, .outOfRange, 4, "\"settings.retries\" must be ≥ 0"⟩ ∈
      validateText decoyText := by decide +kernel
  obtain ⟨field, hfield, hpath, hkey⟩ : ∃ field ∈ Schema.fields,
      field.path = "settings.retries" ∧ field.key = "retries" := by decide
  have hn : findFieldLine decoyText field.key.toList = some 4 := by
    rw [hkey]
    decide
  obtain ⟨hfound, hagree⟩ := findings_agree_with_hovers hopen hbom hlines
  have habout : Finding.About ⟨.warning, .outOfRange, 4, "\"settings.retries\" must be ≥ 0"⟩
      field := ⟨"≥ 0", by rw [hpath]; rfl⟩
  obtain ⟨hline, hshows⟩ := (hagree _ hfinding (.inr rfl)).2 field hfield habout 4 hn
  exact ⟨hopen, hbom, hlines, _, hfinding, rfl, field, hfield, habout, hkey, hline, hshows,
    ((hfound field hfield 4).mp hn).2.2⟩

end Documents

end Editor

end AppConfig
