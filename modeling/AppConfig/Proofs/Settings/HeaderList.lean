import AppConfig.Proofs.Text.Pieces
import AppConfig.Settings.Headers
import Mathlib.Data.String.Basic

/-!
# AppConfig.Proofs.Settings.HeaderList

Header lists divided by commas. A table is known by its values (`Headers.Increasing.ext`), a table
changed by pairs has the last value of each key (`Headers.get?_putAll`), and the pairs of a list are
those of its parts (`headerPairs_append`). So two lists with a comma between them give the first table
changed by the second, and a list that was written from pairs gives them back.
-/

namespace AppConfig

open Text (isBlank trim)

/-! ## Tables -/

namespace Headers

/-- The value that a list of pairs gives to a key last. -/
def lastValue? (pairs : List (String × String)) (key : String) : Option String :=
  (pairs.filter (·.1 = key)).getLast?.map (·.2)

theorem lastValue?_append (ps qs : List (String × String)) (key : String) :
    lastValue? (ps ++ qs) key = (lastValue? qs key).or (lastValue? ps key) := by
  rw [lastValue?, List.filter_append, List.getLast?_append, Option.map_or]
  rfl

theorem lastValue?_cons (p : String × String) (ps : List (String × String)) (key : String) :
    lastValue? (p :: ps) key = (lastValue? ps key).or (if p.1 = key then some p.2 else none) := by
  rw [← List.singleton_append, lastValue?_append]
  by_cases h : p.1 = key
  · simp [lastValue?, h]
  · simp [lastValue?, h]

theorem get?_cons (p : String × String) (h : Headers) (key : String) :
    Headers.get? (p :: h) key = if key = p.1 then some p.2 else h.get? key := by
  obtain ⟨k, v⟩ := p
  by_cases hk : key = k
  · simp [Headers.get?, hk]
  · have hb : (key == k) = false := by simpa using hk
    simp [Headers.get?, List.lookup_cons, hb, hk]

theorem get?_put (h : Headers) (key value other : String) :
    (h.put key value).get? other = if other = key then some value else h.get? other := by
  induction h with
  | nil => rw [put, get?_cons]
  | cons p rest ih =>
    obtain ⟨k, v⟩ := p
    rw [put]
    split
    · rw [get?_cons]
    · split
      · rename_i hkey
        subst hkey
        simp only [get?_cons]
        split
        · rfl
        · rfl
      · rename_i hkey
        rw [get?_cons, get?_cons, ih]
        split
        · rename_i hother
          rw [if_neg (hother ▸ Ne.symm hkey)]
        · rfl

/-- The pairs of a list replace what the table had, and later pairs replace earlier ones. -/
theorem get?_putAll (h : Headers) (pairs : List (String × String)) (key : String) :
    (h.putAll pairs).get? key = (lastValue? pairs key).or (h.get? key) := by
  induction pairs generalizing h with
  | nil => rfl
  | cons p ps ih =>
    have hput : (h.put p.1 p.2).get? key =
        (if p.1 = key then some p.2 else none).or (h.get? key) := by
      rw [get?_put]
      by_cases hk : p.1 = key
      · simp [hk]
      · simp [hk, Ne.symm hk]
    change ((h.put p.1 p.2).putAll ps).get? key = _
    rw [ih, hput, lastValue?_cons, Option.or_assoc]

/-- Keys increase, so each occurs once. -/
def Increasing (h : Headers) : Prop := List.Pairwise (·.1 < ·.1) h

theorem mem_put {h : Headers} {key value : String} {p : String × String}
    (hp : p ∈ h.put key value) : p = (key, value) ∨ p ∈ h := by
  induction h with
  | nil => exact .inl (List.mem_singleton.mp hp)
  | cons q rest ih =>
    rw [put] at hp
    split at hp
    · exact List.mem_cons.mp hp
    · split at hp
      · rcases List.mem_cons.mp hp with hp | hp
        · exact .inl hp
        · exact .inr (List.mem_cons_of_mem _ hp)
      · rcases List.mem_cons.mp hp with rfl | hp
        · exact .inr List.mem_cons_self
        · exact (ih hp).imp_right (List.mem_cons_of_mem _)

namespace Increasing

variable {h h' : Headers}

theorem put (hh : h.Increasing) (key value : String) : (h.put key value).Increasing := by
  induction h with
  | nil => exact List.pairwise_singleton _ _
  | cons q rest ih =>
    obtain ⟨hq, hrest⟩ := List.pairwise_cons.mp hh
    rw [Headers.put]
    split
    · rename_i hkey
      refine List.pairwise_cons.mpr ⟨fun p hp => ?_, hh⟩
      rcases List.mem_cons.mp hp with rfl | hp
      · exact hkey
      · exact lt_trans hkey (hq p hp)
    · rename_i hle
      split
      · rename_i hkey
        subst hkey
        exact List.pairwise_cons.mpr ⟨hq, hrest⟩
      · rename_i hne
        refine List.pairwise_cons.mpr ⟨fun p hp => ?_, ih hrest⟩
        rcases mem_put hp with rfl | hp
        · exact lt_of_le_of_ne (not_lt.mp hle) (Ne.symm hne)
        · exact hq p hp

theorem putAll (hh : h.Increasing) (pairs : List (String × String)) :
    (h.putAll pairs).Increasing := by
  induction pairs generalizing h with
  | nil => exact hh
  | cons p ps ih => exact ih (hh.put p.1 p.2)

theorem get?_eq_none {key : String} (hkey : ∀ p ∈ h, key < p.1) : h.get? key = none := by
  induction h with
  | nil => rfl
  | cons q rest ih =>
    have hq : key ≠ q.1 := ne_of_lt (hkey q List.mem_cons_self)
    rw [get?_cons, if_neg hq]
    exact ih fun p hp => hkey p (List.mem_cons_of_mem _ hp)

/-- A key below the first one is not in the table. -/
theorem get?_eq_none_of_lt {q : String × String} {rest : Headers} {key : String}
    (hh : Increasing (q :: rest)) (hkey : key < q.1) : Headers.get? (q :: rest) key = none := by
  obtain ⟨hq, -⟩ := List.pairwise_cons.mp hh
  refine get?_eq_none fun p hp => ?_
  rcases List.mem_cons.mp hp with rfl | hp
  · exact hkey
  · exact lt_trans hkey (hq p hp)

/-- In a table the last value of a key is the only one. -/
theorem lastValue?_eq (hh : h.Increasing) (key : String) : lastValue? h key = h.get? key := by
  induction h with
  | nil => rfl
  | cons q rest ih =>
    obtain ⟨hq, hrest⟩ := List.pairwise_cons.mp hh
    rw [lastValue?_cons, get?_cons, ih hrest]
    by_cases hkey : key = q.1
    · subst hkey
      simp [get?_eq_none hq]
    · simp [hkey, Ne.symm hkey]

/-- Tables with the same values are equal. -/
theorem ext (hh : h.Increasing) (hh' : h'.Increasing) (hget : ∀ key, h.get? key = h'.get? key) :
    h = h' := by
  induction h generalizing h' with
  | nil =>
    cases h' with
    | nil => rfl
    | cons q' rest' =>
      have hfirst := hget q'.1
      rw [get?_cons, if_pos rfl] at hfirst
      contradiction
  | cons q rest ih =>
    obtain ⟨hq, hrest⟩ := List.pairwise_cons.mp hh
    cases h' with
    | nil =>
      have hfirst := hget q.1
      rw [get?_cons, if_pos rfl] at hfirst
      contradiction
    | cons q' rest' =>
      obtain ⟨hq', hrest'⟩ := List.pairwise_cons.mp hh'
      -- the least key of one table is a key of the other, so the least keys are the same
      have hfirst : q.1 = q'.1 := by
        rcases lt_trichotomy q.1 q'.1 with hlt | heq | hgt
        · have hnone := hh'.get?_eq_none_of_lt hlt
          rw [← hget, get?_cons, if_pos rfl] at hnone
          contradiction
        · exact heq
        · have hnone := hh.get?_eq_none_of_lt hgt
          rw [hget, get?_cons, if_pos rfl] at hnone
          contradiction
      have hvalue := hget q.1
      rw [get?_cons, get?_cons, if_pos rfl, if_pos hfirst, Option.some.injEq] at hvalue
      have hrests : rest = rest' := by
        refine ih hrest hrest' fun key => ?_
        by_cases hkey : key = q.1
        · rw [hkey, get?_eq_none hq, get?_eq_none (hfirst ▸ hq')]
        · have := hget key
          rwa [get?_cons, get?_cons, if_neg hkey, if_neg (hfirst ▸ hkey)] at this
      rw [Prod.ext hfirst hvalue, hrests]

end Increasing

end Headers

open Headers (lastValue?)

theorem parseHeaders_increasing (raw : List Char) : (parseHeaders raw).Increasing :=
  Headers.Increasing.putAll List.Pairwise.nil _

theorem get?_parseHeaders (raw : List Char) (key : String) :
    (parseHeaders raw).get? key = lastValue? (headerPairs raw) key := by
  rw [parseHeaders, Headers.get?_putAll]
  exact Option.or_none

/-! ## Parts -/

/-- A part of a header list that gives no pair: it has no equals sign, or nothing but white space in
front of the first one. -/
def Malformed (part : List Char) : Prop :=
  '=' ∉ part ∨ ∃ name text, part = name ++ '=' :: text ∧ isBlank name = true

theorem headerPair?_eq {name : List Char} (hname : '=' ∉ name) (text : List Char) :
    headerPair? (name ++ '=' :: text) =
      if trim name = [] then none
      else some (String.ofList (trim name), String.ofList (trim text)) := by
  rw [headerPair?, Text.cut?_append hname]
  cases hkey : trim name with
  | nil => simp only [hkey, if_true]
  | cons c cs => simp only [hkey, if_neg (List.cons_ne_nil c cs)]

theorem headerPair?_of_malformed {part : List Char} (h : Malformed part) :
    headerPair? part = none := by
  rcases h with h | ⟨name, text, rfl, hblank⟩
  · rw [headerPair?, Text.cut?_eq_none_iff.mpr h]
  · rw [headerPair?_eq (Text.not_mem_of_isBlank rfl hblank), if_pos (Text.trim_of_isBlank hblank)]

theorem headerPairs_append (a b : List Char) :
    headerPairs (a ++ ',' :: b) = headerPairs a ++ headerPairs b := by
  rw [headerPairs, Text.split_append, List.filterMap_append]
  rfl

theorem headerPairs_of_not_mem {part : List Char} (h : ',' ∉ part) :
    headerPairs part = [part].filterMap headerPair? := by
  rw [headerPairs, Text.split_of_not_mem h]

/-- The pairs of parts with commas between them are those of the parts. -/
theorem headerPairs_intercalate {parts : List (List Char)} (h : ∀ part ∈ parts, ',' ∉ part) :
    headerPairs ([','].intercalate parts) = parts.filterMap headerPair? := by
  induction parts with
  | nil => rfl
  | cons part parts ih =>
    have hpart := headerPairs_of_not_mem (h part List.mem_cons_self)
    have ih := ih fun q hq => h q (List.mem_cons_of_mem _ hq)
    cases parts with
    | nil => rw [List.intercalate_singleton, hpart]
    | cons next parts =>
      rw [List.intercalate_cons_cons, List.append_assoc, List.singleton_append,
        headerPairs_append, hpart, ih, ← List.filterMap_append, List.singleton_append]

/-! ## Written pairs -/

/-- A pair as it can be written into a header list: a key and a value without white space around
them, the key with neither a comma nor an equals sign in it, the value without a comma. White space
may be written around both. -/
structure WrittenPair where
  key : List Char
  value : List Char
  key_ne_nil : key ≠ []
  key_trimmed : trim key = key
  comma_not_mem_key : ',' ∉ key
  equals_not_mem_key : '=' ∉ key
  value_trimmed : trim value = value
  comma_not_mem_value : ',' ∉ value
  beforeKey : List Char
  behindKey : List Char
  beforeValue : List Char
  behindValue : List Char
  blank : ∀ space ∈ [beforeKey, behindKey, beforeValue, behindValue], isBlank space = true

namespace WrittenPair

def text (p : WrittenPair) : List Char :=
  p.beforeKey ++ (p.key ++ p.behindKey) ++ '=' :: (p.beforeValue ++ (p.value ++ p.behindValue))

def pair (p : WrittenPair) : String × String := (String.ofList p.key, String.ofList p.value)

theorem not_mem_space (p : WrittenPair) {c : Char} (hc : Text.isWhite c = false) :
    c ∉ p.beforeKey ∧ c ∉ p.behindKey ∧ c ∉ p.beforeValue ∧ c ∉ p.behindValue := by
  have hspace {space : List Char} (h : space ∈ [p.beforeKey, p.behindKey, p.beforeValue,
      p.behindValue]) : c ∉ space := Text.not_mem_of_isBlank hc (p.blank space h)
  exact ⟨hspace (by simp), hspace (by simp), hspace (by simp), hspace (by simp)⟩

theorem comma_not_mem_text (p : WrittenPair) : ',' ∉ p.text := by
  obtain ⟨hbeforeKey, hbehindKey, hbeforeValue, hbehindValue⟩ :=
    p.not_mem_space (c := ',') rfl
  simp [text, hbeforeKey, hbehindKey, hbeforeValue, hbehindValue, p.comma_not_mem_key,
    p.comma_not_mem_value]

/-- What is written is read: the first equals sign is the one behind the key. -/
theorem headerPair?_text (p : WrittenPair) : headerPair? p.text = some p.pair := by
  obtain ⟨hbefore, hbehind, -⟩ := p.not_mem_space (c := '=') rfl
  have hname : '=' ∉ p.beforeKey ++ (p.key ++ p.behindKey) := by
    simp [hbefore, hbehind, p.equals_not_mem_key]
  have hkey : trim (p.beforeKey ++ (p.key ++ p.behindKey)) = p.key := by
    rw [Text.trim_append_left (p.blank _ (by simp)), Text.trim_append_right (p.blank _ (by simp)),
      p.key_trimmed]
  have hvalue : trim (p.beforeValue ++ (p.value ++ p.behindValue)) = p.value := by
    rw [Text.trim_append_left (p.blank _ (by simp)), Text.trim_append_right (p.blank _ (by simp)),
      p.value_trimmed]
  rw [text, headerPair?_eq hname, hkey, hvalue, if_neg p.key_ne_nil, pair]

end WrittenPair

/-- A header list as it is written from pairs. -/
def headerList (pairs : List WrittenPair) : List Char := [','].intercalate (pairs.map (·.text))

theorem headerPairs_headerList (pairs : List WrittenPair) :
    headerPairs (headerList pairs) = pairs.map (·.pair) := by
  have hcomma : ∀ part ∈ pairs.map (·.text), ',' ∉ part := by
    intro part hpart
    obtain ⟨p, -, rfl⟩ := List.mem_map.mp hpart
    exact p.comma_not_mem_text
  have hread : headerPair? ∘ WrittenPair.text = some ∘ WrittenPair.pair :=
    funext WrittenPair.headerPair?_text
  rw [headerList, headerPairs_intercalate hcomma, List.filterMap_map, hread,
    List.filterMap_eq_map]

/-! ## Header lists -/

theorem get?_parseHeaders_append (a b : List Char) (key : String) :
    (parseHeaders (a ++ ',' :: b)).get? key =
      ((parseHeaders b).get? key).or ((parseHeaders a).get? key) := by
  simp only [get?_parseHeaders, headerPairs_append, Headers.lastValue?_append]

theorem parseHeaders_append (a b : List Char) :
    parseHeaders (a ++ ',' :: b) = (parseHeaders a).putAll (parseHeaders b) := by
  refine (parseHeaders_increasing _).ext ((parseHeaders_increasing a).putAll _) fun key => ?_
  rw [get?_parseHeaders_append, Headers.get?_putAll, (parseHeaders_increasing b).lastValue?_eq]

theorem parseHeaders_congr {a b : List Char} (h : headerPairs a = headerPairs b) :
    parseHeaders a = parseHeaders b := by
  rw [parseHeaders, parseHeaders, h]

/-- **Header lists.** Every list gives a table in which each key occurs once. Two lists with a comma
between them give the first table with the values of the second put in. So a part that gives no pair
changes nothing wherever it stands, and the last of several values for a key counts. A list that was
written from pairs, with any white space around keys and values, gives the table in which each key
has its last value and no other key has one. -/
theorem header_lists_compose :
    (∀ raw, (parseHeaders raw).Increasing) ∧
    (∀ a b, parseHeaders (a ++ ',' :: b) = (parseHeaders a).putAll (parseHeaders b) ∧
      ∀ key, (parseHeaders (a ++ ',' :: b)).get? key =
        ((parseHeaders b).get? key).or ((parseHeaders a).get? key)) ∧
    (∀ part, ',' ∉ part → Malformed part → parseHeaders part = [] ∧
      ∀ a b, parseHeaders (part ++ ',' :: b) = parseHeaders b ∧
        parseHeaders (a ++ ',' :: part) = parseHeaders a ∧
        parseHeaders (a ++ ',' :: (part ++ ',' :: b)) = parseHeaders (a ++ ',' :: b)) ∧
    (∀ a (p : WrittenPair) key, (parseHeaders (a ++ ',' :: p.text)).get? key =
      if key = String.ofList p.key then some (String.ofList p.value)
      else (parseHeaders a).get? key) ∧
    ∀ (pairs : List WrittenPair) key,
      (parseHeaders (headerList pairs)).get? key = lastValue? (pairs.map (·.pair)) key := by
  refine ⟨parseHeaders_increasing,
    fun a b => ⟨parseHeaders_append a b, get?_parseHeaders_append a b⟩, ?_, ?_, ?_⟩
  · intro part hcomma hmalformed
    have hnone : headerPairs part = [] := by
      rw [headerPairs_of_not_mem hcomma, List.filterMap_cons, headerPair?_of_malformed hmalformed]
      rfl
    refine ⟨by rw [parseHeaders, hnone]; rfl, fun a b => ⟨?_, ?_, ?_⟩⟩
    · exact parseHeaders_congr (by rw [headerPairs_append, hnone, List.nil_append])
    · exact parseHeaders_congr (by rw [headerPairs_append, hnone, List.append_nil])
    · exact parseHeaders_congr (by simp only [headerPairs_append, hnone, List.nil_append])
  · intro a p key
    have hpair : (parseHeaders p.text).get? key =
        if key = String.ofList p.key then some (String.ofList p.value) else none := by
      rw [get?_parseHeaders, headerPairs_of_not_mem p.comma_not_mem_text, List.filterMap_cons,
        p.headerPair?_text, List.filterMap_nil, Headers.lastValue?_cons]
      simp [lastValue?, WrittenPair.pair, eq_comm]
    rw [get?_parseHeaders_append, hpair]
    split
    · rfl
    · rfl
  · intro pairs key
    rw [get?_parseHeaders, headerPairs_headerList]

/-- A key with two values, the second with an equals sign in it, and typographic spaces. -/
def repeatedKey : List WrittenPair :=
  [⟨"k".toList, "1".toList, by decide, by decide, by decide, by decide, by decide, by decide,
      [], [], [], [], by decide⟩,
    ⟨"k".toList, "2=3".toList, by decide, by decide, by decide, by decide, by decide, by decide,
      "\u3000".toList, " ".toList, "\t".toList, "\r\n".toList, by decide⟩]

theorem header_lists_compose_repeatedKey :
    ',' ∉ " = x".toList ∧ Malformed " = x".toList ∧
    parseHeaders (" = x".toList ++ ',' :: headerList repeatedKey) =
      parseHeaders (headerList repeatedKey) ∧
    (parseHeaders (headerList repeatedKey)).get? "k" = some "2=3" := by
  have hcomma : ',' ∉ " = x".toList := by decide
  have hmalformed : Malformed " = x".toList := .inr ⟨" ".toList, " x".toList, rfl, rfl⟩
  obtain ⟨-, -, hleft, -, hwritten⟩ := header_lists_compose
  refine ⟨hcomma, hmalformed, ((hleft _ hcomma hmalformed).2 [] _).1, ?_⟩
  rw [hwritten]
  decide

end AppConfig
