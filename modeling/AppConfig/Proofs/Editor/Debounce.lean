import AppConfig.Proofs.Editor.Edits

/-!
# AppConfig.Proofs.Editor.Debounce

Debouncing publishes exactly the edits that settle, if no version of a document is used twice.

* `Edit.Settles` — the run goes on until the delay of the edit ends, and up to then nobody edits or
  closes its document.
* `DistinctVersions` — the edits of a document have different versions. An edit can then be answered
  by itself only, so it is answered if and only if it settles (`reply?_eq`).

Timers of edits that do not settle run out all the same, but find another version, or no document.
-/

namespace AppConfig.Editor.Workspace

def Edit.Settles (d : Nat) (as : List Action) (e : Edit) : Prop :=
  e.due d ≤ elapsed as ∧
    ∀ s ∈ as.zipIdx, e.step < s.2 → clockAt as s.2 < e.due d → s.1.subject? ≠ some e.uri

instance (d : Nat) (as : List Action) (e : Edit) : Decidable (e.Settles d as) :=
  inferInstanceAs (Decidable (_ ∧ _))

def DistinctVersions (as : List Action) : Prop :=
  ∀ e ∈ edits as, ∀ e' ∈ edits as, e.step < e'.step → e.uri = e'.uri →
    e.document.version ≠ e'.document.version

/-- The steps before the end of a delay are those that begin before its time. -/
theorem clockAt_lt_due_iff {d : Nat} {as : List Action} {e : Edit} (he : e ∈ edits as)
    (hr : e.due d ≤ elapsed as) {k : Nat} (hk : e.step < k) :
    clockAt as k < e.due d ↔ k ≤ e.dueStep d as := by
  obtain ⟨⟨_, hend⟩, hfirst⟩ := dueStep_spec he hr
  constructor
  · intro h
    by_contra hlt
    have := clockAt_mono as (show e.dueStep d as + 1 ≤ k by omega)
    omega
  · intro h
    have := hfirst (k - 1) (by omega) (by omega)
    rwa [Nat.sub_add_cancel (by omega)] at this

theorem settles_iff {d : Nat} {as : List Action} {e : Edit} (he : e ∈ edits as) :
    e.Settles d as ↔ e.AnsweredBy d as e := by
  constructor
  · rintro ⟨hr, halone⟩
    refine ⟨rfl, rfl, hr, (dueStep_spec he hr).1.1, ?_⟩
    intro k a hk hj ha
    exact halone (a, k) (List.mem_zipIdx_iff_getElem?.mpr ha) hk
      ((clockAt_lt_due_iff he hr hk).mpr hj)
  · intro h
    refine ⟨h.ended, ?_⟩
    intro s hs hk hc
    exact h.untouched s.2 s.1 hk ((clockAt_lt_due_iff he h.ended hk).mp hc)
      (List.mem_zipIdx_iff_getElem?.mp hs)

theorem Edit.AnsweredBy.eq_self {d : Nat} {as : List Action} {e e' : Edit}
    (h : e.AnsweredBy d as e') (hv : DistinctVersions as) (he : e ∈ edits as)
    (he' : e' ∈ edits as) : e' = e := by
  rcases Nat.lt_or_eq_of_le (h.step_le he) with hlt | heq
  · exact absurd h.version.symm (hv e he e' he' hlt h.uri.symm)
  · exact (eq_of_step_eq he he' heq).symm

theorem reply?_eq {d : Nat} {as : List Action} {e : Edit} (hv : DistinctVersions as)
    (he : e ∈ edits as) :
    e.reply? d as = if e.Settles d as then
      some (e.dueStep d as, .ofDocument e.uri e.document) else none := by
  by_cases hs : e.Settles d as
  · rw [if_pos hs]
    exact reply?_eq_some_iff.mpr ⟨e, he, (settles_iff he).mp hs, rfl⟩
  · rw [if_neg hs, Option.eq_none_iff_forall_ne_some]
    intro s hsome
    obtain ⟨e', he', ha, _⟩ := reply?_eq_some_iff.mp hsome
    rw [ha.eq_self hv he he'] at ha
    exact hs ((settles_iff he).mpr ha)

/-- **Debouncing publishes exactly the settled edits.** All that is published is published during
the steps. What has a version is, in the order of the edits, the diagnostics of those that settle,
each once and in the step in which its delay ends. What has none is, for each close and in its
step, one empty list. -/
theorem settled_edits_published (d : Nat) (as : List Action) (hv : DistinctVersions as) :
    (after d as).published = (timeline d as).map (·.2) ∧
    (timeline d as).filter (·.2.version.isSome) =
      ((edits as).filter (Edit.Settles d as ·)).map (fun e => (e.dueStep d as,
        ⟨e.uri, some e.document.version,
          diagnosticsOf (validateText e.document.content) e.document.content⟩)) ∧
    (timeline d as).filter (·.2.version.isNone) =
      as.zipIdx.filterMap fun s => s.1.close?.map fun uri => (s.2, ⟨uri, none, []⟩) := by
  refine ⟨published_eq_timeline d as, ?_, unversioned_timeline d as⟩
  rw [versioned_timeline, ← List.filterMap_eq_map, List.filterMap_filter]
  refine List.filterMap_congr ?_
  intro e he
  simp only [reply?_eq hv he, decide_eq_true_eq, Function.comp_apply]
  rfl

/-- Two documents. The first edit is overtaken, the next two settle together, the one after them is
closed, and the last one settles in a new session. -/
def draftRun : List Action :=
  [.update "a.yaml" 1 "a: 1".toList, .advance 100, .update "a.yaml" 2 "a: 2".toList,
    .update "b.yaml" 1 "b: 1".toList, .advance 300, .update "a.yaml" 3 "a: 3".toList,
    .close "a.yaml", .update "a.yaml" 4 "a: 4".toList, .advance 1000]

theorem settled_edits_published_draftRun :
    DistinctVersions draftRun ∧
    (timeline 300 draftRun).filter (·.2.version.isSome) =
      [(4, .ofDocument "a.yaml" ⟨2, "a: 2".toList⟩), (4, .ofDocument "b.yaml" ⟨1, "b: 1".toList⟩),
        (8, .ofDocument "a.yaml" ⟨4, "a: 4".toList⟩)] ∧
    (timeline 300 draftRun).filter (·.2.version.isNone) = [(6, ⟨"a.yaml", none, []⟩)] := by
  have hv : DistinctVersions draftRun := by unfold DistinctVersions; decide
  obtain ⟨_, hsome, hnone⟩ := settled_edits_published 300 draftRun hv
  have hsettled : (edits draftRun).filter (Edit.Settles 300 draftRun ·) =
      [⟨2, 100, "a.yaml", ⟨2, "a: 2".toList⟩⟩, ⟨3, 100, "b.yaml", ⟨1, "b: 1".toList⟩⟩,
        ⟨7, 400, "a.yaml", ⟨4, "a: 4".toList⟩⟩] := by decide
  rw [hsettled] at hsome
  exact ⟨hv, hsome, hnone⟩

end AppConfig.Editor.Workspace
