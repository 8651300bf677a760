import AppConfig.Proofs.Editor.Timeline
import Mathlib.Data.List.Basic

/-!
# AppConfig.Proofs.Editor.Edits

What a timed run publishes, told from its edits.

* `edits as` — the edits of a run, in order, each with its step and its time.
* `LastEdit as uri e` — an edit of a document after which nobody touched it; `get?_after` says that
  it is the one that is stored.
* `Edit.dueStep` — the step in which the delay of an edit ends.
* `versioned_timeline` — each edit whose delay ends is answered in that step with the document that
  is stored then, if its version is still that of the edit. Nothing else is published with a
  version, and the order is that of the edits.
* `unversioned_timeline` — each close is answered in its own step.
* `Edit.AnsweredBy` — whose text is published when the delay of an edit ends.
-/

namespace AppConfig.Editor.Workspace

/-! ## The clock -/

/-- How long the actions take. -/
def elapsed : List Action → Nat
  | [] => 0
  | a :: as => a.duration + elapsed as

/-- What the clock shows when step `i` begins. -/
def clockAt (as : List Action) (i : Nat) : Nat := elapsed (as.take i)

@[simp] theorem elapsed_append (as bs : List Action) :
    elapsed (as ++ bs) = elapsed as + elapsed bs := by
  induction as with
  | nil => simp [elapsed]
  | cons a as ih => rw [List.cons_append, elapsed, elapsed, ih, Nat.add_assoc]

@[simp] theorem elapsed_singleton (a : Action) : elapsed [a] = a.duration := by
  simp [elapsed]

@[simp] theorem clockAt_length (as : List Action) : clockAt as as.length = elapsed as := by
  simp [clockAt]

theorem clockAt_append {as : List Action} {i : Nat} (h : i ≤ as.length) (bs : List Action) :
    clockAt (as ++ bs) i = clockAt as i := by
  rw [clockAt, List.take_append_of_le_length h, clockAt]

theorem clockAt_take (as : List Action) {i n : Nat} (h : i ≤ n) :
    clockAt (as.take n) i = clockAt as i := by
  rw [clockAt, List.take_take, Nat.min_eq_left h, clockAt]

theorem clockAt_le (as : List Action) (i : Nat) : clockAt as i ≤ elapsed as := by
  have h : elapsed as = clockAt as i + elapsed (as.drop i) := by
    rw [clockAt, ← elapsed_append, List.take_append_drop]
  omega

theorem clockAt_mono (as : List Action) {i j : Nat} (h : i ≤ j) : clockAt as i ≤ clockAt as j := by
  rw [← clockAt_take as h]
  exact clockAt_le (as.take j) i

/-! ## The edits of a run -/

@[ext]
structure Edit where
  step : Nat
  time : Nat
  uri : Uri
  document : Document
  deriving DecidableEq, Repr

namespace Edit

/-- When the delay of an edit ends. -/
def due (d : Nat) (e : Edit) : Nat := e.time + d

def timer (d : Nat) (e : Edit) : Timer := ⟨e.due d, e.uri, e.document.version⟩

end Edit

def edits (as : List Action) : List Edit :=
  as.zipIdx.filterMap fun s => s.1.edit?.map fun e => ⟨s.2, clockAt as s.2, e.1, e.2⟩

/-- The edit that an action makes after a run. -/
def editAfter (as : List Action) (a : Action) : Option Edit :=
  a.edit?.map fun e => ⟨as.length, elapsed as, e.1, e.2⟩

theorem mem_editAfter {as : List Action} {a : Action} {e : Edit} :
    e ∈ (editAfter as a).toList ↔
      a.edit? = some (e.uri, e.document) ∧ e.step = as.length ∧ e.time = elapsed as := by
  obtain ⟨step, time, uri, document⟩ := e
  cases he : a.edit? with
  | none => simp [editAfter, he]
  | some x =>
    simp only [editAfter, he, Option.map_some, Option.toList_some, List.mem_singleton,
      Edit.mk.injEq, Option.some.injEq, Prod.ext_iff]
    tauto

theorem edits_snoc (as : List Action) (a : Action) :
    edits (as ++ [a]) = edits as ++ (editAfter as a).toList := by
  have hold : as.zipIdx.filterMap (fun s => s.1.edit?.map fun e =>
      (⟨s.2, clockAt (as ++ [a]) s.2, e.1, e.2⟩ : Edit)) = edits as := by
    refine List.filterMap_congr ?_
    intro s hs
    rw [List.mem_zipIdx_iff_getElem?] at hs
    have hlt : s.2 < as.length := (List.getElem?_eq_some_iff.mp hs).1
    rw [clockAt_append (Nat.le_of_lt hlt)]
  have hnew : [(a, as.length)].filterMap (fun s => s.1.edit?.map fun e =>
      (⟨s.2, clockAt (as ++ [a]) s.2, e.1, e.2⟩ : Edit)) = (editAfter as a).toList := by
    rw [editAfter]
    cases he : a.edit? with
    | none => simp [he]
    | some e => simp [he, clockAt]
  rw [edits, List.zipIdx_append, List.filterMap_append, hold, Nat.zero_add, List.zipIdx_singleton,
    hnew]

theorem mem_edits {as : List Action} {e : Edit} :
    e ∈ edits as ↔ ∃ a, as[e.step]? = some a ∧ a.edit? = some (e.uri, e.document) ∧
      e.time = clockAt as e.step := by
  simp only [edits, List.mem_filterMap, Option.map_eq_some_iff]
  constructor
  · rintro ⟨⟨a, i⟩, hs, x, hx, rfl⟩
    rw [List.mem_zipIdx_iff_getElem?] at hs
    exact ⟨a, hs, hx, rfl⟩
  · rintro ⟨a, hs, hx, ht⟩
    refine ⟨(a, e.step), List.mem_zipIdx_iff_getElem?.mpr hs, _, hx, ?_⟩
    rw [← ht]

theorem step_lt_of_mem_edits {as : List Action} {e : Edit} (h : e ∈ edits as) :
    e.step < as.length := by
  obtain ⟨a, hs, _, _⟩ := mem_edits.mp h
  exact (List.getElem?_eq_some_iff.mp hs).1

theorem time_le_of_mem_edits {as : List Action} {e : Edit} (h : e ∈ edits as) :
    e.time ≤ elapsed as := by
  obtain ⟨a, _, _, ht⟩ := mem_edits.mp h
  rw [ht]
  exact clockAt_le as e.step

/-- A step makes one edit at most. -/
theorem eq_of_step_eq {as : List Action} {e e' : Edit} (h : e ∈ edits as) (h' : e' ∈ edits as)
    (hs : e.step = e'.step) : e = e' := by
  obtain ⟨a, ha, he, ht⟩ := mem_edits.mp h
  obtain ⟨a', ha', he', ht'⟩ := mem_edits.mp h'
  rw [hs] at ha ht
  obtain rfl : a = a' := Option.some.inj (ha.symm.trans ha')
  obtain ⟨hu, hd⟩ : e.uri = e'.uri ∧ e.document = e'.document := by
    simpa using he.symm.trans he'
  exact Edit.ext hs (ht.trans ht'.symm) hu hd

theorem mem_edits_take {as : List Action} {n : Nat} {e : Edit} :
    e ∈ edits (as.take n) ↔ e ∈ edits as ∧ e.step < n := by
  by_cases hn : e.step < n
  · simp only [mem_edits, List.getElem?_take_of_lt hn, clockAt_take as (Nat.le_of_lt hn), hn,
      and_true]
  · refine iff_of_false ?_ (fun h => hn h.2)
    intro h
    have := step_lt_of_mem_edits h
    rw [List.length_take] at this
    omega

theorem edits_sorted (as : List Action) : (edits as).Pairwise (·.time ≤ ·.time) := by
  induction as using List.reverseRecOn with
  | nil => exact .nil
  | append_singleton as a ih =>
    rw [edits_snoc, List.pairwise_append]
    refine ⟨ih, ?_, ?_⟩
    · cases editAfter as a <;> simp
    · intro e he e' he'
      rw [(mem_editAfter.mp he').2.2]
      exact time_le_of_mem_edits he

/-! ## The workspace after a run -/

theorem after_snoc (d : Nat) (as : List Action) (a : Action) :
    after d (as ++ [a]) = ((after d as).perform a).1 := by
  rw [after, performAll_snoc, ← after]

theorem after_debounce (d : Nat) (as : List Action) : (after d as).documents.debounce = d := by
  induction as using List.reverseRecOn with
  | nil => rfl
  | append_singleton as a ih => rw [after_snoc, perform_documents, ih]

theorem after_clock (d : Nat) (as : List Action) :
    (after d as).documents.clock = elapsed as := by
  induction as using List.reverseRecOn with
  | nil => rfl
  | append_singleton as a ih =>
    rw [after_snoc, perform_documents, ih, elapsed_append, elapsed_singleton]

theorem timer?_after (d : Nat) (as : List Action) (a : Action) :
    a.timer? (after d as).documents = (editAfter as a).map (Edit.timer d) := by
  rw [Action.timer?, after_clock, after_debounce, editAfter, Option.map_map]
  rfl

/-- The timers are those of the edits whose delay has not ended. -/
theorem after_timers (d : Nat) (as : List Action) :
    (after d as).documents.timers =
      ((edits as).filter (elapsed as < ·.due d)).map (Edit.timer d) := by
  induction as using List.reverseRecOn with
  | nil => rfl
  | append_singleton as a ih =>
    rw [after_snoc, perform_documents]
    simp only [ih, after_clock, timer?_after, edits_snoc, elapsed_append, elapsed_singleton,
      List.filter_append, List.filter_map, List.map_append, Option.toList_map,
      List.filter_filter]
    congr 2
    refine List.filter_congr ?_
    intro e _
    -- a delay that ends later than the new time ends later than the old one
    change (decide (elapsed as + a.duration < e.due d) && decide (elapsed as < e.due d)) = _
    rw [Bool.eq_iff_iff, Bool.and_eq_true, decide_eq_true_eq, decide_eq_true_eq]
    omega

theorem after_store (d : Nat) (as : List Action) (a : Action) :
    (after d (as ++ [a])).documents.store = a.applyTo (after d as).documents.store := by
  rw [after_snoc, perform_documents]

theorem getElem?_snoc {α : Type} {l : List α} {x y : α} {k : Nat} :
    (l ++ [x])[k]? = some y ↔ l[k]? = some y ∨ (k = l.length ∧ x = y) := by
  rw [List.getElem?_append]
  split
  · rename_i hk
    have hne : k ≠ l.length := Nat.ne_of_lt hk
    simp [hne]
  · rename_i hk
    rw [List.getElem?_eq_none (by omega : l.length ≤ k), List.getElem?_singleton]
    by_cases hk' : k = l.length
    · simp [hk']
    · simp [hk', show k - l.length ≠ 0 by omega]

/-- An edit of a document after which nobody touched it. -/
structure LastEdit (as : List Action) (uri : Uri) (e : Edit) : Prop where
  mem : e ∈ edits as
  about : e.uri = uri
  last : ∀ k a, e.step < k → as[k]? = some a → a.subject? ≠ some uri

theorem lastEdit_snoc_of_subject {as : List Action} {a : Action} {uri : Uri} {e : Edit}
    (ha : a.subject? = some uri) :
    LastEdit (as ++ [a]) uri e ↔ e ∈ (editAfter as a).toList := by
  constructor
  · rintro ⟨hm, _, hlast⟩
    rw [edits_snoc] at hm
    rcases List.mem_append.mp hm with hm | hm
    · exact absurd ha (hlast _ a (step_lt_of_mem_edits hm) (getElem?_snoc.mpr (.inr ⟨rfl, rfl⟩)))
    · exact hm
  · intro hm
    obtain ⟨he, hs, _⟩ := mem_editAfter.mp hm
    refine ⟨by rw [edits_snoc]; exact List.mem_append_right _ hm, ?_, ?_⟩
    · simpa [Action.subject?, he] using ha
    · intro k b hk hb
      have hlt := (List.getElem?_eq_some_iff.mp hb).1
      rw [List.length_append, List.length_singleton] at hlt
      omega

theorem lastEdit_snoc_of_ne {as : List Action} {a : Action} {uri : Uri} {e : Edit}
    (ha : a.subject? ≠ some uri) : LastEdit (as ++ [a]) uri e ↔ LastEdit as uri e := by
  constructor
  · rintro ⟨hm, hu, hlast⟩
    refine ⟨?_, hu, fun k b hk hb => hlast k b hk (getElem?_snoc.mpr (.inl hb))⟩
    rw [edits_snoc] at hm
    rcases List.mem_append.mp hm with hm | hm
    · exact hm
    · refine absurd ?_ ha
      rw [Action.subject?, (mem_editAfter.mp hm).1, ← hu]
      rfl
  · rintro ⟨hm, hu, hlast⟩
    refine ⟨by rw [edits_snoc]; exact List.mem_append_left _ hm, hu, ?_⟩
    intro k b hk hb
    rcases getElem?_snoc.mp hb with hb | ⟨_, rfl⟩
    · exact hlast k b hk hb
    · exact ha

theorem get?_after {d : Nat} {as : List Action} {uri : Uri} {doc : Document} :
    (after d as).documents.get? uri = some doc ↔ ∃ e, LastEdit as uri e ∧ e.document = doc := by
  induction as using List.reverseRecOn with
  | nil =>
    refine iff_of_false (by simp [after, performAll, start, Documents.get?, Documents.start]) ?_
    rintro ⟨e, he, _⟩
    exact absurd he.mem (by simp [edits])
  | append_singleton as a ih =>
    rw [Documents.get?, after_store, Action.get?_applyTo]
    by_cases ha : a.subject? = some uri
    · simp only [if_pos ha, lastEdit_snoc_of_subject ha, editAfter]
      cases a.edit? <;> simp
    · simp only [if_neg ha, lastEdit_snoc_of_ne ha]
      exact ih

/-! ## The end of a delay -/

/-- The step in which the delay of an edit ends: the first one, from the edit on, that leaves the
clock at that time or beyond. -/
def Edit.dueStep (d : Nat) (as : List Action) (e : Edit) : Nat :=
  (List.range as.length).findIdx fun j => e.step ≤ j ∧ e.due d ≤ clockAt as (j + 1)

theorem dueStep_eq_iff {d : Nat} {as : List Action} {e : Edit} {j : Nat} (hj : j < as.length) :
    e.dueStep d as = j ↔ (e.step ≤ j ∧ e.due d ≤ clockAt as (j + 1)) ∧
      ∀ k < j, e.step ≤ k → clockAt as (k + 1) < e.due d := by
  rw [Edit.dueStep, List.findIdx_eq (by simpa using hj)]
  simp

theorem dueStep_lt {d : Nat} {as : List Action} {e : Edit} (he : e ∈ edits as)
    (hr : e.due d ≤ elapsed as) : e.dueStep d as < as.length := by
  have hs := step_lt_of_mem_edits he
  obtain ⟨n, hn⟩ : ∃ n, as.length = n + 1 := ⟨as.length - 1, by omega⟩
  have hlt : e.dueStep d as < (List.range as.length).length := by
    refine List.findIdx_lt_length.mpr ⟨n, by simp [hn], ?_⟩
    rw [← clockAt_length, hn] at hr
    simp only [decide_eq_true_eq]
    exact ⟨by omega, hr⟩
  simpa using hlt

theorem dueStep_spec {d : Nat} {as : List Action} {e : Edit} (he : e ∈ edits as)
    (hr : e.due d ≤ elapsed as) :
    (e.step ≤ e.dueStep d as ∧ e.due d ≤ clockAt as (e.dueStep d as + 1)) ∧
      ∀ k < e.dueStep d as, e.step ≤ k → clockAt as (k + 1) < e.due d :=
  (dueStep_eq_iff (dueStep_lt he hr)).mp rfl

theorem dueStep_append {d : Nat} {as : List Action} {e : Edit} (he : e ∈ edits as)
    (hr : e.due d ≤ elapsed as) (bs : List Action) : e.dueStep d (as ++ bs) = e.dueStep d as := by
  have hlt := dueStep_lt he hr
  obtain ⟨⟨hs, hd⟩, hfirst⟩ := dueStep_spec he hr
  refine (dueStep_eq_iff (by rw [List.length_append]; omega)).mpr ⟨⟨hs, ?_⟩, ?_⟩
  · rwa [clockAt_append hlt]
  · intro k hk hk'
    rw [clockAt_append (by omega)]
    exact hfirst k hk hk'

/-- The delay of an edit has not ended before the last step. -/
def Edit.Pending (d : Nat) (as : List Action) (e : Edit) : Prop :=
  e.step = as.length ∨ elapsed as < e.due d

theorem dueStep_of_pending {d : Nat} {as : List Action} {a : Action} {e : Edit}
    (he : e ∈ edits (as ++ [a])) (hp : e.Pending d as) (hr : e.due d ≤ elapsed (as ++ [a])) :
    e.dueStep d (as ++ [a]) = as.length := by
  have hlen : (as ++ [a]).length = as.length + 1 := by simp
  have hs := step_lt_of_mem_edits he
  refine (dueStep_eq_iff (by omega)).mpr ⟨⟨by omega, ?_⟩, ?_⟩
  · rwa [← hlen, clockAt_length]
  · intro k hk hk'
    rw [clockAt_append hk]
    rcases hp with hp | hp
    · omega
    · exact Nat.lt_of_le_of_lt (clockAt_le as (k + 1)) hp

/-! ## What is published -/

/-- What is published for an edit, and in which step. -/
def Edit.reply? (d : Nat) (as : List Action) (e : Edit) : Option (Nat × Publication) :=
  if e.due d ≤ elapsed as then
    (answer? (after d (as.take (e.dueStep d as + 1))).documents.store (e.timer d).request).map
      (e.dueStep d as, ·)
  else none

theorem reply?_append {d : Nat} {as : List Action} {e : Edit} (he : e ∈ edits as)
    (hr : e.due d ≤ elapsed as) (bs : List Action) : e.reply? d (as ++ bs) = e.reply? d as := by
  have hr' : e.due d ≤ elapsed (as ++ bs) := by rw [elapsed_append]; omega
  rw [Edit.reply?, Edit.reply?, if_pos hr, if_pos hr', dueStep_append he hr,
    List.take_append_of_le_length (dueStep_lt he hr)]

theorem reply?_of_pending {d : Nat} {as : List Action} {a : Action} {e : Edit}
    (he : e ∈ edits (as ++ [a])) (hp : e.Pending d as) :
    e.reply? d (as ++ [a]) = if e.due d ≤ elapsed (as ++ [a]) then
      (answer? (after d (as ++ [a])).documents.store (e.timer d).request).map (as.length, ·)
    else none := by
  rw [Edit.reply?]
  split
  · rename_i hr
    rw [dueStep_of_pending he hp hr, List.take_of_length_le (by simp)]
  · rfl

/-- The edits whose delay has not ended before the last step. -/
def pendingEdits (d : Nat) (as : List Action) (a : Action) : List Edit :=
  (edits as).filter (elapsed as < ·.due d) ++ (editAfter as a).toList

theorem emitted_after (d : Nat) (as : List Action) (a : Action) :
    (after d as).emitted a = (a.close?.map Publication.cleared).toList ++
      ((pendingEdits d as a).filter (·.due d ≤ elapsed (as ++ [a]))).filterMap fun e =>
        answer? (after d (as ++ [a])).documents.store (e.timer d).request := by
  have hpending : (after d as).documents.timers ++ (a.timer? (after d as).documents).toList =
      (pendingEdits d as a).map (Edit.timer d) := by
    rw [after_timers, timer?_after, Option.toList_map, ← List.map_append, pendingEdits]
  rw [emitted, hpending, after_clock, after_store, List.filter_map, List.filterMap_map,
    elapsed_append, elapsed_singleton]
  rfl

theorem pendingEdits_mem {d : Nat} {as : List Action} {a : Action} {e : Edit}
    (h : e ∈ pendingEdits d as a) : e ∈ edits (as ++ [a]) ∧ e.Pending d as := by
  rw [edits_snoc]
  rcases List.mem_append.mp h with h | h
  · obtain ⟨hm, hd⟩ := List.mem_filter.mp h
    exact ⟨List.mem_append_left _ hm, .inr (of_decide_eq_true hd)⟩
  · exact ⟨List.mem_append_right _ h, .inl (mem_editAfter.mp h).2.1⟩

theorem filter_le_append_filter_lt {α : Type} (f : α → Nat) (c : Nat) {l : List α}
    (h : l.Pairwise (f · ≤ f ·)) : l.filter (f · ≤ c) ++ l.filter (c < f ·) = l := by
  induction l with
  | nil => rfl
  | cons x l ih =>
    obtain ⟨hx, hl⟩ := List.pairwise_cons.mp h
    by_cases hc : f x ≤ c
    · rw [List.filter_cons_of_pos (by simpa using hc),
        List.filter_cons_of_neg (by simpa using hc), List.cons_append, ih hl]
    · have hnone : l.filter (f · ≤ c) = [] := by
        refine List.filter_eq_nil_iff.mpr ?_
        intro y hy
        have := hx y hy
        simp only [decide_eq_true_eq]
        omega
      have hall : l.filter (c < f ·) = l := by
        refine List.filter_eq_self.mpr ?_
        intro y hy
        have := hx y hy
        simp only [decide_eq_true_eq]
        omega
      rw [List.filter_cons_of_neg (by simpa using hc), List.filter_cons_of_pos (by simpa using hc),
        hnone, hall, List.nil_append]

/-- The edits are those whose delay had ended before the last step, and then those whose delay had
not: one delay holds for all. -/
theorem edits_snoc_eq (d : Nat) (as : List Action) (a : Action) :
    edits (as ++ [a]) = (edits as).filter (·.due d ≤ elapsed as) ++ pendingEdits d as a := by
  have hsorted : (edits as).Pairwise (Edit.due d · ≤ Edit.due d ·) :=
    (edits_sorted as).imp fun h => Nat.add_le_add_right h d
  rw [edits_snoc, pendingEdits, ← List.append_assoc, filter_le_append_filter_lt _ _ hsorted]

theorem version_of_answer? {s : Store} {t : Timer} {p : Publication}
    (h : answer? s t.request = some p) : p.version = some t.version := by
  simp only [Timer.request, answer?, Option.map_eq_some_iff, Option.filter_eq_some_iff,
    beq_iff_eq] at h
  obtain ⟨doc, ⟨_, hv⟩, rfl⟩ := h
  simp [Publication.ofDocument, hv]

theorem isSome_version_of_mem {d : Nat} {s : Store} {es : List Edit} {p : Publication}
    (h : p ∈ es.filterMap fun e => answer? s (e.timer d).request) : p.version.isSome = true := by
  obtain ⟨e, _, he⟩ := List.mem_filterMap.mp h
  rw [version_of_answer? he, Option.isSome_some]

theorem versioned_emitted (d : Nat) (as : List Action) (a : Action) :
    ((after d as).emitted a).filter (·.version.isSome) =
      ((pendingEdits d as a).filter (·.due d ≤ elapsed (as ++ [a]))).filterMap fun e =>
        answer? (after d (as ++ [a])).documents.store (e.timer d).request := by
  have hcleared : (a.close?.map Publication.cleared).toList.filter (·.version.isSome) = [] := by
    cases a.close? <;> rfl
  rw [emitted_after, List.filter_append, hcleared, List.nil_append]
  exact List.filter_eq_self.mpr fun p hp => isSome_version_of_mem hp

theorem unversioned_emitted (d : Nat) (as : List Action) (a : Action) :
    ((after d as).emitted a).filter (·.version.isNone) =
      (a.close?.map Publication.cleared).toList := by
  have hcleared : (a.close?.map Publication.cleared).toList.filter (·.version.isNone) =
      (a.close?.map Publication.cleared).toList := by
    cases a.close? <;> rfl
  rw [emitted_after, List.filter_append, hcleared, List.filter_eq_nil_iff.mpr, List.append_nil]
  intro p hp
  simp [Option.isSome_iff_ne_none.mp (isSome_version_of_mem hp)]

theorem filterMap_reply?_pendingEdits (d : Nat) (as : List Action) (a : Action) :
    (pendingEdits d as a).filterMap (Edit.reply? d (as ++ [a])) =
      (((after d as).emitted a).filter (·.version.isSome)).map (as.length, ·) := by
  rw [versioned_emitted, List.map_filterMap, List.filterMap_filter]
  refine List.filterMap_congr ?_
  intro e he
  obtain ⟨hm, hp⟩ := pendingEdits_mem he
  simp only [reply?_of_pending hm hp, decide_eq_true_eq]

theorem versioned_timeline (d : Nat) (as : List Action) :
    (timeline d as).filter (·.2.version.isSome) = (edits as).filterMap (Edit.reply? d as) := by
  induction as using List.reverseRecOn with
  | nil => rfl
  | append_singleton as a ih =>
    have hended : ((edits as).filter (·.due d ≤ elapsed as)).filterMap
        (Edit.reply? d (as ++ [a])) = (edits as).filterMap (Edit.reply? d as) := by
      rw [List.filterMap_filter]
      refine List.filterMap_congr ?_
      intro e he
      by_cases hr : e.due d ≤ elapsed as
      · rw [if_pos (decide_eq_true hr), reply?_append he hr]
      · rw [if_neg (by simpa using hr), Edit.reply?, if_neg hr]
    rw [timeline_snoc, List.filter_append, ih, List.filter_map, edits_snoc_eq d,
      List.filterMap_append, hended, filterMap_reply?_pendingEdits]
    rfl

theorem unversioned_timeline (d : Nat) (as : List Action) :
    (timeline d as).filter (·.2.version.isNone) =
      as.zipIdx.filterMap fun s => s.1.close?.map fun uri => (s.2, .cleared uri) := by
  induction as using List.reverseRecOn with
  | nil => rfl
  | append_singleton as a ih =>
    have hemitted := congrArg (List.map (as.length, ·)) (unversioned_emitted d as a)
    rw [timeline_snoc, List.filter_append, ih, List.filter_map, List.zipIdx_append,
      List.filterMap_append, Nat.zero_add, List.zipIdx_singleton]
    refine congrArg _ (hemitted.trans ?_)
    cases hc : a.close? <;> simp [hc]

/-! ## Whose text is published -/

/-- When the delay of `e` ends, `e'` is the last that happened to the document, and has the version
of `e`. -/
structure Edit.AnsweredBy (d : Nat) (as : List Action) (e e' : Edit) : Prop where
  uri : e'.uri = e.uri
  version : e'.document.version = e.document.version
  ended : e.due d ≤ elapsed as
  made : e'.step ≤ e.dueStep d as
  untouched : ∀ k a, e'.step < k → k ≤ e.dueStep d as → as[k]? = some a → a.subject? ≠ some e.uri

theorem lastEdit_take_iff {as : List Action} {uri : Uri} {e : Edit} {j : Nat} :
    LastEdit (as.take (j + 1)) uri e ↔ e ∈ edits as ∧ e.step ≤ j ∧ e.uri = uri ∧
      ∀ k a, e.step < k → k ≤ j → as[k]? = some a → a.subject? ≠ some uri := by
  constructor
  · rintro ⟨hm, hu, hlast⟩
    obtain ⟨hm, hs⟩ := mem_edits_take.mp hm
    refine ⟨hm, Nat.le_of_lt_succ hs, hu, ?_⟩
    intro k a hk hj ha
    exact hlast k a hk (by rwa [List.getElem?_take_of_lt (by omega)])
  · rintro ⟨hm, hs, hu, hlast⟩
    refine ⟨mem_edits_take.mpr ⟨hm, Nat.lt_succ_of_le hs⟩, hu, ?_⟩
    intro k a hk ha
    have hlt := (List.getElem?_eq_some_iff.mp ha).1
    rw [List.length_take] at hlt
    rw [List.getElem?_take_of_lt (by omega)] at ha
    exact hlast k a hk (by omega) ha

theorem reply?_eq_some_iff {d : Nat} {as : List Action} {e : Edit} {s : Nat × Publication} :
    e.reply? d as = some s ↔ ∃ e' ∈ edits as, e.AnsweredBy d as e' ∧
      s = (e.dueStep d as, .ofDocument e'.uri e'.document) := by
  rw [Edit.reply?]
  split
  · rename_i hr
    simp only [Timer.request, Edit.timer, answer?, Option.map_eq_some_iff,
      Option.filter_eq_some_iff, beq_iff_eq]
    constructor
    · rintro ⟨p, ⟨doc, ⟨hg, hv⟩, rfl⟩, rfl⟩
      obtain ⟨e', hlast, rfl⟩ := get?_after.mp hg
      obtain ⟨hm, hs, hu, huntouched⟩ := lastEdit_take_iff.mp hlast
      exact ⟨e', hm, ⟨hu, hv, hr, hs, huntouched⟩, by rw [hu]⟩
    · rintro ⟨e', hm, ha, rfl⟩
      refine ⟨_, ⟨e'.document, ⟨get?_after.mpr ⟨e', ?_, rfl⟩, ha.version⟩, rfl⟩, by rw [ha.uri]⟩
      exact lastEdit_take_iff.mpr ⟨hm, ha.made, ha.uri, ha.untouched⟩
  · rename_i hr
    refine iff_of_false (by simp) ?_
    rintro ⟨e', _, ha, _⟩
    exact hr ha.ended

theorem subject?_of_mem_edits {as : List Action} {e : Edit} (h : e ∈ edits as) :
    ∃ a, as[e.step]? = some a ∧ a.subject? = some e.uri := by
  obtain ⟨a, ha, he, _⟩ := mem_edits.mp h
  exact ⟨a, ha, by rw [Action.subject?, he]; rfl⟩

namespace Edit.AnsweredBy

variable {d : Nat} {as : List Action} {e e' : Edit}

/-- No edit of the document lies between the answer and the end of the delay. -/
theorem step_le_of_mem (h : e.AnsweredBy d as e') {e₁ : Edit} (he₁ : e₁ ∈ edits as)
    (hu : e₁.uri = e.uri) (hs : e₁.step ≤ e.dueStep d as) : e₁.step ≤ e'.step := by
  obtain ⟨a, ha, hsub⟩ := subject?_of_mem_edits he₁
  by_contra hlt
  exact h.untouched e₁.step a (by omega) hs ha (hu ▸ hsub)

theorem step_le (h : e.AnsweredBy d as e') (he : e ∈ edits as) : e.step ≤ e'.step :=
  h.step_le_of_mem he rfl (dueStep_spec he h.ended).1.1

end Edit.AnsweredBy

end AppConfig.Editor.Workspace
