import AppConfig.Proofs.Command.Lossless
import AppConfig.Proofs.Yaml.ReadBack

/-!
# AppConfig.Proofs.Command.YamlReport

A report as YAML tells all that it was made from. `Report.decodeYaml?` is the way back: it reads a
sequence of mappings with a path and findings, each of them a mapping with a severity, a kind, a line
and a message, and nothing else. The strings are read as `Yaml.Block.scalar?` reads them, in any style.
-/

namespace AppConfig.Report

open Yaml.Write (stringLine spaces itemValue items itemValue_obj members_cons members_nil
  entryValue_str entryValue_nat entryValue_arr_cons entryValue_arr_nil items_cons)
open Yaml.Block (Stops scalar? scalar?_stringLine)

/-! ## The way back -/

/-- The string behind some characters, in a mapping at `column`. -/
def string? (column : Nat) (lead : String) (cs : List Char) : Option (String × List Char) := do
  let cs ← cs.dropPrefix? lead.toList
  let (text, rest) ← scalar? column cs
  some (String.ofList text, rest)

/-- The number behind some characters, up to the end of the line. -/
def number? (lead : String) (cs : List Char) : Option (Nat × List Char) := do
  let cs ← cs.dropPrefix? lead.toList
  match cs.span Char.isDigit with
  | (d :: ds, '\n' :: rest) => some (Nat.ofDigitChars 10 (d :: ds) 0, rest)
  | _ => none

def finding? (cs : List Char) : Option (Finding × List Char) := do
  let (severity, cs) ← string? 4 "  - severity: " cs
  let (kind, cs) ← string? 4 "    kind: " cs
  let (line, cs) ← number? "    line: " cs
  let (message, cs) ← string? 4 "    message: " cs
  let severity ← Severity.ofName? severity
  let kind ← FindingKind.ofCode? kind
  some (⟨severity, kind, line, message⟩, cs)

/-- The items at the front, as many as can be read. -/
def readItems {α : Type} (item? : List Char → Option (α × List Char)) :
    Nat → List Char → List α × List Char
  | 0, cs => ([], cs)
  | fuel + 1, cs =>
    match item? cs with
    | some (a, rest) =>
      let r := readItems item? fuel rest
      (a :: r.1, r.2)
    | none => ([], cs)

def fileReport? (cs : List Char) : Option (FileReport × List Char) := do
  let (path, cs) ← string? 2 "- path: " cs
  let cs ← cs.dropPrefix? "  findings:".toList
  match cs with
  | ' ' :: '[' :: ']' :: '\n' :: rest => some (⟨Text.utf8 path.toList, []⟩, rest)
  | '\n' :: cs =>
    match readItems finding? cs.length cs with
    | (f :: fs, rest) => some (⟨Text.utf8 path.toList, f :: fs⟩, rest)
    | ([], _) => none
  | _ => none

/-- The reports that a text tells of. -/
def decodeYaml? (output : String) : Option (List FileReport) :=
  if output = "[]\n" then some []
  else
    match readItems fileReport? output.length output.toList with
    | (r :: rs, []) => some (r :: rs)
    | _ => none

/-! ## Lists of items -/

theorem readItems_flatMap {α β : Type} {item? : List Char → Option (α × List Char)}
    {written : β → List Char} {p : List Char → Prop} {as : List α} {bs : List β}
    (hread : List.Forall₂ (fun b a => ∀ rest, p rest →
      item? (written b ++ rest) = some (a, rest)) bs as)
    (hbehind : ∀ b ∈ bs, ∀ rest, p (written b ++ rest)) {rest : List Char}
    (hrest : p rest) (hstop : item? rest = none) {fuel : Nat} (hfuel : as.length ≤ fuel) :
    readItems item? fuel (bs.flatMap written ++ rest) = (as, rest) := by
  induction hread generalizing fuel with
  | nil =>
    cases fuel with
    | zero => rfl
    | succ fuel => simp [readItems, hstop]
  | @cons b a bs as hab _ ih =>
    cases fuel with
    | zero => contradiction
    | succ fuel =>
      rw [List.forall_mem_cons] at hbehind
      have hnext : p (bs.flatMap written ++ rest) := by
        cases bs with
        | nil => exact hrest
        | cons b bs =>
          rw [List.flatMap_cons, List.append_assoc]
          exact hbehind.2 b List.mem_cons_self _
      have hrec := ih hbehind.2 (Nat.le_of_succ_le_succ hfuel)
      rw [List.flatMap_cons, List.append_assoc, readItems, hab _ hnext]
      simp [hrec]

/-! ## What the writer writes -/

theorem dropPrefix?_append (lead rest : List Char) : (lead ++ rest).dropPrefix? lead = some rest :=
  List.dropPrefix?_append_of_beq rest (beq_self_eq_true lead)

theorem string?_stringLine {column : Nat} (lead s : String) {rest : List Char}
    (hstops : Stops (column + 2) rest) :
    string? column lead (lead.toList ++ (stringLine (column + 2) s ++ rest)) = some (s, rest) := by
  simp [string?, dropPrefix?_append, scalar?_stringLine s hstops]

theorem number?_toDigits (lead : String) (n : Nat) (rest : List Char) :
    number? lead (lead.toList ++ (Nat.toDigits 10 n ++ '\n' :: rest)) = some (n, rest) := by
  have hspan := Json.span_toDigits n (Json.ends_cons (c := '\n') rfl rest)
  obtain ⟨d, ds, hdigits, -⟩ := Json.exists_toDigits n
  have hvalue : Nat.ofDigitChars 10 (d :: ds) 0 = n := by
    rw [← hdigits, Nat.ofDigitChars_ten_toDigits]
  rw [hdigits] at hspan ⊢
  simp only [number?, dropPrefix?_append, Option.bind_eq_bind, Option.bind_some, hspan, hvalue]

/-- What stands behind a file: nothing, or the dash of the next one. -/
def AtFile (cs : List Char) : Prop := cs = [] ∨ ∃ rest, cs = '-' :: rest

/-- The item of a sequence. -/
def item (column : Nat) (v : Json) : List Char := spaces column ++ '-' :: itemValue column v

theorem items_eq_flatMap (column : Nat) (vs : List Json) :
    items column vs = vs.flatMap (item column) := by
  induction vs with
  | nil => rfl
  | cons v vs ih => rw [items_cons, ih, List.flatMap_cons, item]

theorem length_le_items (column : Nat) (vs : List Json) : vs.length ≤ (items column vs).length := by
  induction vs with
  | nil => exact Nat.zero_le _
  | cons v vs ih =>
    simp only [items_cons, List.length_append, List.length_cons]
    omega

/-- The keys of a report are written as they are. -/
theorem dropLast_stringLine :
    ∀ key ∈ ["path", "findings", "severity", "kind", "line", "message"],
      (stringLine 0 key).dropLast = key.toList := by
  decide +kernel

theorem item_toJson (f : Finding) :
    item 2 f.toJson =
      "  - severity: ".toList ++ (stringLine 6 f.severity.name ++
        ("    kind: ".toList ++ (stringLine 6 f.kind.code ++
          ("    line: ".toList ++ (Nat.toDigits 10 f.line ++ '\n' ::
            ("    message: ".toList ++ stringLine 6 f.message)))))) := by
  have hseverity := dropLast_stringLine "severity" (by simp)
  have hkind := dropLast_stringLine "kind" (by simp)
  have hline := dropLast_stringLine "line" (by simp)
  have hmessage := dropLast_stringLine "message" (by simp)
  simp only [item, Finding.toJson, itemValue_obj, members_cons, members_nil, entryValue_str,
    entryValue_nat, hseverity, hkind, hline, hmessage]
  simp [spaces]

theorem finding?_item (f : Finding) {rest : List Char} (hstops : Stops 6 rest) :
    finding? (item 2 f.toJson ++ rest) = some (f, rest) := by
  have hkind (cs : List Char) : Stops 6 ("    kind: ".toList ++ cs) := ⟨rfl, rfl⟩
  have hline (cs : List Char) : Stops 6 ("    line: ".toList ++ cs) := ⟨rfl, rfl⟩
  simp only [item_toJson, finding?, List.append_assoc, List.cons_append,
    string?_stringLine _ _ (hkind _), string?_stringLine _ _ (hline _), number?_toDigits,
    string?_stringLine _ _ hstops, Severity.ofName?_name, FindingKind.ofCode?_code,
    Option.bind_eq_bind, Option.bind_some]

/-- No finding is read where there is none: at the end, and at the next file. -/
theorem finding?_of_atFile {cs : List Char} (h : AtFile cs) : finding? cs = none := by
  rcases h with rfl | ⟨rest, rfl⟩ <;> rfl

theorem stops_of_atFile {cs : List Char} (h : AtFile cs) : Stops 6 cs := by
  rcases h with rfl | ⟨rest, rfl⟩ <;> exact ⟨rfl, rfl⟩

theorem readItems_findings (fs : List Finding) {rest : List Char} (h : AtFile rest) {fuel : Nat}
    (hfuel : fs.length ≤ fuel) :
    readItems finding? fuel (items 2 (fs.map Finding.toJson) ++ rest) = (fs, rest) := by
  rw [items_eq_flatMap]
  refine readItems_flatMap (p := Stops 6) ?_ ?_ (stops_of_atFile h) (finding?_of_atFile h) hfuel
  · rw [List.forall₂_map_left_iff, List.forall₂_same]
    exact fun f _ _ hstops => finding?_item f hstops
  · intro v _ cs
    exact ⟨rfl, rfl⟩

theorem item_entry (name : List Char) (r : FileReport) :
    item 0 (entry name r) =
      "- path: ".toList ++ (stringLine 4 (String.ofList name) ++
        ("  findings:".toList ++ match r.findings with
          | [] => " []\n".toList
          | f :: fs => '\n' :: items 2 ((f :: fs).map Finding.toJson))) := by
  have hpath := dropLast_stringLine "path" (by simp)
  have hfindings := dropLast_stringLine "findings" (by simp)
  obtain ⟨path, findings⟩ := r
  cases findings with
  | nil =>
    simp only [item, entry, itemValue_obj, members_cons, members_nil, entryValue_str,
      entryValue_arr_nil, hpath, hfindings, List.map_nil]
    simp [spaces]
  | cons f fs =>
    simp only [item, entry, itemValue_obj, members_cons, members_nil, entryValue_str,
      entryValue_arr_cons, hpath, hfindings, List.map_cons]
    simp [spaces]

theorem fileReport?_item {name : List Char} {r : FileReport} (h : r.path = Text.utf8 name)
    {rest : List Char} (hrest : AtFile rest) :
    fileReport? (item 0 (entry name r) ++ rest) = some (r, rest) := by
  obtain ⟨path, findings⟩ := r
  obtain rfl : path = Text.utf8 name := h
  have hstops (cs : List Char) : Stops 4 ("  findings:".toList ++ cs) := ⟨rfl, rfl⟩
  simp only [item_entry, fileReport?, List.append_assoc, string?_stringLine _ _ (hstops _),
    dropPrefix?_append, Option.bind_eq_bind, Option.bind_some, String.toList_ofList]
  cases findings with
  | nil => rfl
  | cons f fs =>
    have hfuel : (f :: fs).length ≤ (items 2 ((f :: fs).map Finding.toJson) ++ rest).length := by
      have hle := length_le_items 2 ((f :: fs).map Finding.toJson)
      rw [List.length_map] at hle
      rw [List.length_append]
      omega
    have hitems := readItems_findings (f :: fs) hrest hfuel
    simp only [List.cons_append, hitems]

/-- A written report is read back. -/
theorem decodeYaml?_write {rs : List FileReport} {names : List (List Char)}
    (hnames : rs.map (·.path) = names.map Text.utf8) :
    decodeYaml? (Yaml.write (.arr (List.zipWith entry names rs))) = some rs := by
  have hitems : List.Forall₂ (fun v r => ∀ rest, AtFile rest →
      fileReport? (item 0 v ++ rest) = some (r, rest)) (List.zipWith entry names rs) rs :=
    forall₂_entry (fun h _ hrest => fileReport?_item h hrest) hnames
  generalize List.zipWith entry names rs = vs at hitems ⊢
  cases vs with
  | nil =>
    cases hitems
    rfl
  | cons v vs =>
    have hlength := hitems.length_eq
    have hfuel : rs.length ≤ (items 0 (v :: vs)).length := by
      rw [← hlength]
      exact length_le_items 0 (v :: vs)
    have hread : readItems fileReport? (items 0 (v :: vs)).length (items 0 (v :: vs)) = (rs, []) := by
      have hlist := readItems_flatMap hitems (fun v _ cs => .inr ⟨_, rfl⟩) (.inl rfl) rfl hfuel
      rwa [List.append_nil, ← items_eq_flatMap] at hlist
    have hne : String.ofList (items 0 (v :: vs)) ≠ "[]\n" := by
      intro heq
      have hchars := congrArg String.toList heq
      rw [String.toList_ofList, items_cons] at hchars
      cases hchars
    obtain ⟨r, rs, rfl⟩ := List.exists_cons_of_length_eq_add_one hlength.symm
    simp [decodeYaml?, Yaml.write, hne, hread]

/-- Other styles than the writer's are read too. -/
example : decodeYaml? "- path: \"\\x61\"\n  findings: []\n" = some [⟨[0x61], []⟩] := by
  decide +kernel

/-- No report is printed as nothing. -/
example : decodeYaml? "" = none := rfl

end AppConfig.Report
