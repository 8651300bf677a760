import AppConfig.Proofs.Editor.Edits

/-!
# AppConfig.Proofs.Editor.Quiet

The quiet period: a document is validated when its last edit is as old as the delay.

* `Quiet` — a publication keeps the period.
* `GrowingVersions` — versions go up from edit to edit while a document stays open; a document that
  is opened anew may count from the start.
* `Edit.Preempts` — how the period is broken. Timers outlive a close, and are told apart by their
  version only: the timer of an edit before the close is taken for that of an edit after it, if
  both have the same version, and this one is validated before its time.

`quiet_period_iff` says that there is no other way to break it.
-/

namespace AppConfig.Editor.Workspace

/-- When `s` is published, every edit of its document up to then is as old as the delay. -/
def Quiet (d : Nat) (as : List Action) (s : Nat × Publication) : Prop :=
  ∀ e ∈ edits as, e.uri = s.2.uri → e.step ≤ s.1 → e.time + d ≤ clockAt as (s.1 + 1)

/-- Of two edits of a document with neither edit nor close in between, the later one has the higher
version. -/
def GrowingVersions (as : List Action) : Prop :=
  ∀ e ∈ edits as, ∀ e' ∈ edits as, e.uri = e'.uri → e.step < e'.step →
    (∀ s ∈ as.zipIdx, e.step < s.2 → s.2 < e'.step → s.1.subject? ≠ some e.uri) →
    e.document.version < e'.document.version

/-- A close of the document lies between two steps. -/
def ClosedBetween (as : List Action) (uri : Uri) (i j : Nat) : Prop :=
  ∃ k, i < k ∧ k < j ∧ as[k]? = some (.close uri)

/-- The delay of `e`, an edit before a close, ends while `e'`, an edit after it under the same
version, waits for its own. -/
structure Edit.Preempts (d : Nat) (as : List Action) (e e' : Edit) : Prop where
  answered : e.AnsweredBy d as e'
  closed : ClosedBetween as e.uri e.step e'.step
  early : clockAt as (e.dueStep d as + 1) < e'.time + d

/-! ## Versions within a session -/

theorem subject?_cases {a : Action} {uri : Uri} (h : a.subject? = some uri) :
    a = .close uri ∨ ∃ doc, a.edit? = some (uri, doc) := by
  cases he : a.edit? with
  | some x =>
    rw [Action.subject?, he] at h
    obtain rfl : x.1 = uri := by simpa using h
    exact .inr ⟨x.2, rfl⟩
  | none =>
    cases a with
    | close other =>
      obtain rfl : other = uri := by simpa [Action.subject?, Action.edit?, Action.close?] using h
      exact .inl rfl
    | _ => simp [Action.subject?, he, Action.close?] at h

theorem version_lt_of_not_closed {as : List Action} (hg : GrowingVersions as) {e e' : Edit}
    (he : e ∈ edits as) (he' : e' ∈ edits as) (hu : e.uri = e'.uri) (hs : e.step < e'.step)
    (hc : ¬ ClosedBetween as e.uri e.step e'.step) : e.document.version < e'.document.version := by
  -- by induction on the distance of the two edits
  induction hn : e'.step - e.step using Nat.strongRecOn generalizing e e' with
  | ind n ih =>
    by_cases hmid : ∃ e₁ ∈ edits as, e₁.uri = e.uri ∧ e.step < e₁.step ∧ e₁.step < e'.step
    · obtain ⟨e₁, he₁, hu₁, hlt, hlt'⟩ := hmid
      have hfirst : e.document.version < e₁.document.version := by
        refine ih (e₁.step - e.step) (by omega) he he₁ hu₁.symm hlt ?_ rfl
        rintro ⟨k, hk, hk', ha⟩
        exact hc ⟨k, hk, by omega, ha⟩
      have hsecond : e₁.document.version < e'.document.version := by
        refine ih (e'.step - e₁.step) (by omega) he₁ he' (hu₁.trans hu) hlt' ?_ rfl
        rintro ⟨k, hk, hk', ha⟩
        exact hc ⟨k, by omega, hk', hu₁ ▸ ha⟩
      exact Int.lt_trans hfirst hsecond
    · refine hg e he e' he' hu hs ?_
      intro s hm hk hk' hsub
      rw [List.mem_zipIdx_iff_getElem?] at hm
      rcases subject?_cases hsub with hclose | ⟨doc, hedit⟩
      · exact hc ⟨s.2, hk, hk', by rw [hm, hclose]⟩
      · exact hmid ⟨⟨s.2, clockAt as s.2, e.uri, doc⟩, mem_edits.mpr ⟨s.1, hm, hedit, rfl⟩, rfl,
          hk, hk'⟩

/-! ## The quiet period -/

theorem mem_timeline_iff {d : Nat} {as : List Action} {s : Nat × Publication} :
    s ∈ timeline d as ∧ s.2.version ≠ none ↔ ∃ e ∈ edits as, ∃ e' ∈ edits as,
      e.AnsweredBy d as e' ∧ s = (e.dueStep d as, .ofDocument e'.uri e'.document) := by
  have h : s ∈ (timeline d as).filter (·.2.version.isSome) ↔
      s ∈ timeline d as ∧ s.2.version ≠ none := by
    rw [List.mem_filter, Option.isSome_iff_ne_none]
  rw [← h, versioned_timeline, List.mem_filterMap]
  simp only [reply?_eq_some_iff]

theorem time_le_of_step_le {as : List Action} {e e' : Edit} (he : e ∈ edits as)
    (he' : e' ∈ edits as) (hs : e.step ≤ e'.step) : e.time ≤ e'.time := by
  obtain ⟨_, _, _, ht⟩ := mem_edits.mp he
  obtain ⟨_, _, _, ht'⟩ := mem_edits.mp he'
  rw [ht, ht']
  exact clockAt_mono as hs

/-- An answer that comes too early is that of another session. -/
theorem Edit.AnsweredBy.preempts {d : Nat} {as : List Action} {e e' : Edit}
    (h : e.AnsweredBy d as e') (hg : GrowingVersions as) (he : e ∈ edits as) (he' : e' ∈ edits as)
    (hearly : clockAt as (e.dueStep d as + 1) < e'.time + d) : e.Preempts d as e' := by
  have hend : e.time + d ≤ clockAt as (e.dueStep d as + 1) := (dueStep_spec he h.ended).1.2
  have hne : e.step ≠ e'.step := by
    intro heq
    rw [eq_of_step_eq he he' heq] at hend hearly
    omega
  have hlt : e.step < e'.step := Nat.lt_of_le_of_ne (h.step_le he) hne
  refine ⟨h, ?_, hearly⟩
  by_contra hc
  have := version_lt_of_not_closed hg he he' h.uri.symm hlt hc
  rw [h.version] at this
  exact absurd this (Int.lt_irrefl _)

/-- **When the quiet period is kept.** In a run whose versions grow while a document stays open,
every publication with a version comes when the last edit of its document is as old as the delay,
if and only if no edit is preempted by one of an earlier session. -/
theorem quiet_period_iff (d : Nat) (as : List Action) (hg : GrowingVersions as) :
    (∀ s ∈ timeline d as, s.2.version ≠ none → Quiet d as s) ↔
      ∀ e ∈ edits as, ∀ e' ∈ edits as, ¬ e.Preempts d as e' := by
  constructor
  · intro hquiet e he e' he' hp
    obtain ⟨hmem, hver⟩ := mem_timeline_iff.mpr ⟨e, he, e', he', hp.answered, rfl⟩
    have hold : e'.time + d ≤ clockAt as (e.dueStep d as + 1) :=
      hquiet _ hmem hver e' he' rfl hp.answered.made
    exact absurd hp.early (Nat.not_lt.mpr hold)
  · intro hnone s hs hver e₁ he₁ hu hstep
    obtain ⟨e, he, e', he', ha, rfl⟩ := mem_timeline_iff.mp ⟨hs, hver⟩
    have hle : e₁.step ≤ e'.step := ha.step_le_of_mem he₁ (hu.trans ha.uri) hstep
    have htime := time_le_of_step_le he₁ he' hle
    by_contra hyoung
    have hyoung : clockAt as (e.dueStep d as + 1) < e₁.time + d := Nat.lt_of_not_le hyoung
    exact hnone e he e' he' (ha.preempts hg he he' (by omega))

/-- A document is closed and opened anew with a lower version. The timer of the first session runs
out in the second, and finds another version. -/
def restartedRun : List Action :=
  [.update "app.yaml" 3 "a: 1".toList, .advance 100, .close "app.yaml",
    .update "app.yaml" 1 "b: 1".toList, .advance 200, .advance 100]

theorem quiet_period_iff_restartedRun :
    GrowingVersions restartedRun ∧
    timeline 300 restartedRun =
      [(2, .cleared "app.yaml"), (5, .ofDocument "app.yaml" ⟨1, "b: 1".toList⟩)] ∧
    ∀ s ∈ timeline 300 restartedRun, s.2.version ≠ none → Quiet 300 restartedRun s := by
  have hg : GrowingVersions restartedRun := by unfold GrowingVersions; decide
  have hold : ∀ e ∈ edits restartedRun, ∀ e' ∈ edits restartedRun,
      e'.document.version = e.document.version →
        e'.time + 300 ≤ clockAt restartedRun (e.dueStep 300 restartedRun + 1) := by decide
  refine ⟨hg, rfl, (quiet_period_iff 300 restartedRun hg).mpr ?_⟩
  intro e he e' he' hp
  exact absurd hp.early (Nat.not_lt.mpr (hold e he e' he' hp.answered.version))

/-- A document is closed and opened anew with the same version. The timer of the first session runs
out in the second, and validates a text that is not as old as the delay. -/
def reusedRun : List Action :=
  [.update "app.yaml" 1 "a: 1".toList, .advance 100, .close "app.yaml", .advance 100,
    .update "app.yaml" 1 "b: 1".toList, .advance 100]

theorem quiet_period_broken :
    GrowingVersions reusedRun ∧
    timeline 300 reusedRun =
      [(2, .cleared "app.yaml"), (5, .ofDocument "app.yaml" ⟨1, "b: 1".toList⟩)] ∧
    ¬ Quiet 300 reusedRun (5, .ofDocument "app.yaml" ⟨1, "b: 1".toList⟩) := by
  refine ⟨by unfold GrowingVersions; decide, rfl, ?_⟩
  intro hquiet
  have hold := hquiet ⟨4, 200, "app.yaml", ⟨1, "b: 1".toList⟩⟩ (by decide) rfl (by decide)
  exact absurd hold (by decide)

end AppConfig.Editor.Workspace
