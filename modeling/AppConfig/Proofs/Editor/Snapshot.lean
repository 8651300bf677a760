import AppConfig.Proofs.Editor.Forecast

/-!
# AppConfig.Proofs.Editor.Snapshot

Every published list of diagnostics is that of one document, version and text together, as it was
stored when the worker took its snapshot, whatever happens between the look at the version, the
snapshot and the publication.

* `Taken` — where in a run a snapshot was taken that the worker still holds.
* `Made` — where in a run a publication was made from a snapshot.
* `Ordered` — the invariant behind the order of versions: what is published was stored before what
  is held, and that before what is stored.
-/

namespace AppConfig.Editor.Workspace

theorem Step.workerStep {w w' : Workspace} (h : Step w .worked w') : WorkerStep w w' := by
  cases h with
  | work hw => exact work_step hw

theorem Step.worker_eq {w w' : Workspace} {e : Event} (h : Step w e w') (he : e ≠ .worked) :
    w'.worker = w.worker := by
  cases h with
  | update => rfl
  | close => rfl
  | fire => rfl
  | pass => rfl
  | work => exact absurd rfl he

theorem Step.published_eq {w w' : Workspace} {e : Event} (h : Step w e w') (he : e ≠ .worked) :
    w'.published = w.published := by
  cases h with
  | update => rfl
  | close => rfl
  | fire => rfl
  | pass => rfl
  | work => exact absurd rfl he

/-! ## Where a publication comes from -/

/-- The worker holds a snapshot of `d`, which it took in the run `es` from `w₀` to `w`. -/
def Taken (w₀ : Workspace) (es : List Event) (w : Workspace) (uri : Uri) (d : Document) : Prop :=
  ∃ past between w₁ w₂, es = past ++ .worked :: between ∧ Run w₀ past w₁ ∧
    w₁.worker = .confirmed uri ∧ w₁.documents.get? uri = some d ∧ Step w₁ .worked w₂ ∧
    w₂.worker = .holding uri d ∧ Run w₂ between w ∧ .worked ∉ between

theorem Taken.snoc {w₀ w w' : Workspace} {es : List Event} {e : Event} {uri : Uri} {d : Document}
    (h : Taken w₀ es w uri d) (hs : Step w e w') (he : e ≠ .worked) :
    Taken w₀ (es ++ [e]) w' uri d := by
  obtain ⟨past, between, w₁, w₂, rfl, hpast, hc, hg, htake, hh, hbetween, hn⟩ := h
  refine ⟨past, between ++ [e], w₁, w₂, by simp, hpast, hc, hg, htake, hh, hbetween.snoc hs, ?_⟩
  simp [hn, he.symm]

theorem Run.taken {w₀ w : Workspace} {es : List Event} (h : Run w₀ es w)
    (h₀ : w₀.worker = .idle) {uri : Uri} {d : Document} (hk : w.worker = .holding uri d) :
    Taken w₀ es w uri d := by
  induction h with
  | refl => rw [h₀] at hk; cases hk
  | @snoc w w' es e hr hs ih =>
    by_cases he : e = .worked
    · subst he
      cases hs.workerStep with
      | receive _ _ => cases hk
      | confirm _ _ => cases hk
      | skip _ _ => cases hk
      | clear _ => cases hk
      | snapshot hw hg =>
        -- the only step that makes the worker hold anything
        cases hk
        exact ⟨es, [], w, _, rfl, hr, hw, hg, hs, rfl, .refl _, by simp⟩
      | miss _ _ => cases hk
      | publish _ => cases hk
    · exact (ih (hs.worker_eq he ▸ hk)).snoc hs he

theorem snoc_eq_append_cons {α : Type} {l l₁ l₂ : List α} {x y : α}
    (h : l ++ [x] = l₁ ++ y :: l₂) :
    (∃ l₂', l = l₁ ++ y :: l₂' ∧ l₂ = l₂' ++ [x]) ∨ (l = l₁ ∧ x = y ∧ l₂ = []) := by
  induction l₂ using List.reverseRecOn with
  | nil =>
    obtain ⟨rfl, hx⟩ := List.append_inj' h rfl
    exact .inr ⟨rfl, List.singleton_inj.mp hx, rfl⟩
  | append_singleton l₂' z _ =>
    rw [← List.cons_append, ← List.append_assoc] at h
    obtain ⟨rfl, hx⟩ := List.append_inj' h rfl
    exact .inl ⟨l₂', rfl, by rw [hx]⟩

/-- In the run `es` from `w₀` to `w`, the worker published `p` behind `before`, from a snapshot that
it held. -/
def Made (w₀ : Workspace) (es : List Event) (w : Workspace) (before : List Publication)
    (p : Publication) : Prop :=
  ∃ past after w₁ w₂ d, es = past ++ .worked :: after ∧ Run w₀ past w₁ ∧
    w₁.worker = .holding p.uri d ∧ p = .ofDocument p.uri d ∧ w₁.published = before ∧
    Step w₁ .worked w₂ ∧ w₂.published = before ++ [p] ∧ Run w₂ after w

theorem Made.snoc {w₀ w w' : Workspace} {es : List Event} {e : Event} {before : List Publication}
    {p : Publication} (h : Made w₀ es w before p) (hs : Step w e w') :
    Made w₀ (es ++ [e]) w' before p := by
  obtain ⟨past, after, w₁, w₂, d, rfl, hpast, hk, hp, hb, hpub, hb', hafter⟩ := h
  exact ⟨past, after ++ [e], w₁, w₂, d, by simp, hpast, hk, hp, hb, hpub, hb', hafter.snoc hs⟩

/-- Every publication with a version comes from a snapshot. -/
theorem Run.made {w₀ w : Workspace} {es : List Event} (h : Run w₀ es w)
    (h₀ : w₀.published = []) {before behind : List Publication} {p : Publication} {version : Int}
    (hw : w.published = before ++ p :: behind) (hv : p.version = some version) :
    Made w₀ es w before p := by
  induction h generalizing behind with
  | refl => simp [h₀] at hw
  | @snoc w w' es e hr hs ih =>
    by_cases he : e = .worked
    · subst he
      cases hs.workerStep with
      | receive _ _ => exact (ih hw).snoc hs
      | confirm _ _ => exact (ih hw).snoc hs
      | skip _ _ => exact (ih hw).snoc hs
      | clear _ =>
        rcases snoc_eq_append_cons hw with ⟨behind', hw', _⟩ | ⟨_, rfl, _⟩
        · exact (ih hw').snoc hs
        · simp [Publication.cleared] at hv
      | snapshot _ _ => exact (ih hw).snoc hs
      | miss _ _ => exact (ih hw).snoc hs
      | @publish uri d hk =>
        rcases snoc_eq_append_cons hw with ⟨behind', hw', _⟩ | ⟨hb, rfl, _⟩
        · exact (ih hw').snoc hs
        · exact ⟨es, [], w, _, d, rfl, hr, hk, rfl, hb, hs, by simp [hb], .refl _⟩
    · exact (ih (by rw [← hs.published_eq he, hw])).snoc hs

/-! ## The order of versions -/

/-- The version that an event gives to a document. -/
def Event.version? (uri : Uri) : Event → Option Int
  | .updated other version _ => if other = uri then some version else none
  | .closed _ => none
  | .fired _ => none
  | .passed _ => none
  | .worked => none

/-- The versions that the client gives to a document, in order. -/
def versionsOf (uri : Uri) (es : List Event) : List Int := es.filterMap (Event.version? uri)

/-- The versions published for a document, in order. -/
def publishedVersions (uri : Uri) (ps : List Publication) : List Int :=
  (publishedFor uri ps).filterMap (·.version)

@[simp] theorem versionsOf_append (uri : Uri) (es es' : List Event) :
    versionsOf uri (es ++ es') = versionsOf uri es ++ versionsOf uri es' :=
  List.filterMap_append

@[simp] theorem publishedVersions_append (uri : Uri) (ps qs : List Publication) :
    publishedVersions uri (ps ++ qs) = publishedVersions uri ps ++ publishedVersions uri qs := by
  simp [publishedVersions]

@[simp] theorem publishedVersions_cleared (uri other : Uri) :
    publishedVersions uri [.cleared other] = [] := by
  by_cases h : other = uri <;> simp [publishedVersions, publishedFor, Publication.cleared, h]

theorem publishedVersions_ofDocument (uri other : Uri) (d : Document) :
    publishedVersions uri [.ofDocument other d] = if other = uri then [d.version] else [] := by
  by_cases h : other = uri <;> simp [publishedVersions, publishedFor, Publication.ofDocument, h]

theorem versionsOf_eq_nil {uri : Uri} {es : List Event} (h : ∀ e ∈ es, e.uri? ≠ some uri) :
    versionsOf uri es = [] := by
  refine List.filterMap_eq_nil_iff.mpr ?_
  intro e he
  cases e with
  | updated other version content =>
    have hne : other ≠ uri := fun ho => h _ he (by simp [Event.uri?, ho])
    simp [Event.version?, hne]
  | closed other => rfl
  | fired t => rfl
  | passed ms => rfl
  | worked => rfl

/-- The stored version is the last one that the client gave. -/
theorem versionsOf_of_stored {uri : Uri} {d : Document} {es : List Event}
    (h : stored uri es = some d) : ∃ older, versionsOf uri es = older ++ [d.version] := by
  obtain ⟨older, newer, rfl, hn⟩ := stored_eq_some es h
  refine ⟨versionsOf uri older, ?_⟩
  rw [versionsOf_append, ← List.singleton_append, versionsOf_append, versionsOf_eq_nil hn]
  simp [versionsOf, Event.version?]

structure Ordered (uri : Uri) (es : List Event) (w : Workspace) : Prop where
  given : ∀ v ∈ publishedVersions uri w.published, v ∈ versionsOf uri es
  held : ∀ d, w.worker = .holding uri d → d.version ∈ versionsOf uri es ∧
    ∀ v ∈ publishedVersions uri w.published, v ≤ d.version
  sorted : (publishedVersions uri w.published).Pairwise (· ≤ ·)

theorem mem_versionsOf_snoc {uri : Uri} {es : List Event} {v : Int} (h : v ∈ versionsOf uri es)
    (e : Event) : v ∈ versionsOf uri (es ++ [e]) := by
  rw [versionsOf_append]
  exact List.mem_append_left _ h

namespace Ordered

variable {uri : Uri} {es : List Event} {w w' : Workspace} {d : Document}

/-- Steps that publish nothing for the document keep the order, if the worker has not taken a new
snapshot of it. -/
theorem snoc (h : Ordered uri es w) (e : Event)
    (hp : publishedVersions uri w'.published = publishedVersions uri w.published)
    (hk : ∀ d, w'.worker = .holding uri d → w.worker = .holding uri d) :
    Ordered uri (es ++ [e]) w' := by
  refine ⟨?_, ?_, ?_⟩
  · intro v hv
    rw [hp] at hv
    exact mem_versionsOf_snoc (h.given v hv) e
  · intro d hd
    obtain ⟨hmem, hle⟩ := h.held d (hk d hd)
    rw [hp]
    exact ⟨mem_versionsOf_snoc hmem e, hle⟩
  · rw [hp]
    exact h.sorted

/-- What is published is at most as new as what is stored. -/
theorem le_stored (h : Ordered uri es w) (hv : (versionsOf uri es).Pairwise (· < ·))
    (hg : stored uri es = some d) :
    d.version ∈ versionsOf uri es ∧ ∀ v ∈ publishedVersions uri w.published, v ≤ d.version := by
  obtain ⟨older, hall⟩ := versionsOf_of_stored hg
  rw [hall, List.pairwise_append] at hv
  refine ⟨by simp [hall], ?_⟩
  intro v hmem
  have hmem := h.given v hmem
  rw [hall, List.mem_append, List.mem_singleton] at hmem
  rcases hmem with hmem | rfl
  · exact Int.le_of_lt (hv.2.2 v hmem d.version (by simp))
  · exact Int.le_refl _

theorem hold (h : Ordered uri es w) (hv : (versionsOf uri es).Pairwise (· < ·))
    (hg : stored uri es = some d) :
    Ordered uri (es ++ [.worked]) { w with worker := .holding uri d } := by
  obtain ⟨hmem, hle⟩ := h.le_stored hv hg
  refine ⟨fun v hm => mem_versionsOf_snoc (h.given v hm) _, ?_, h.sorted⟩
  intro d' hd'
  cases hd'
  exact ⟨mem_versionsOf_snoc hmem _, hle⟩

theorem publish (h : Ordered uri es w) (hk : w.worker = .holding uri d) :
    Ordered uri (es ++ [.worked]) (w.publish (.ofDocument uri d)) := by
  obtain ⟨hmem, hle⟩ := h.held d hk
  have hp : publishedVersions uri (w.publish (.ofDocument uri d)).published =
      publishedVersions uri w.published ++ [d.version] := by
    simp [publishedVersions_ofDocument]
  refine ⟨?_, by simp, ?_⟩
  · intro v hm
    rw [hp, List.mem_append, List.mem_singleton] at hm
    rcases hm with hm | rfl
    · exact mem_versionsOf_snoc (h.given v hm) _
    · exact mem_versionsOf_snoc hmem _
  · rw [hp, List.pairwise_append]
    refine ⟨h.sorted, List.pairwise_singleton _ _, ?_⟩
    intro v hm v' hm'
    rw [List.mem_singleton.mp hm']
    exact hle v hm

end Ordered

theorem WorkerStep.ordered {uri : Uri} {es : List Event} {w w' : Workspace}
    (hs : WorkerStep w w') (hv : (versionsOf uri es).Pairwise (· < ·))
    (hg : w.documents.get? uri = stored uri es) (h : Ordered uri es w) :
    Ordered uri (es ++ [.worked]) w' := by
  cases hs with
  | receive _ _ => exact h.snoc _ rfl (by simp)
  | confirm _ _ => exact h.snoc _ rfl (by simp)
  | skip _ _ => exact h.snoc _ rfl (by simp)
  | clear _ => exact h.snoc _ (by simp) (by simp)
  | @snapshot other d _ hd =>
    by_cases ho : other = uri
    · subst ho
      exact h.hold hv (hg ▸ hd)
    · exact h.snoc _ rfl (by simp [ho])
  | miss _ _ => exact h.snoc _ rfl (by simp)
  | @publish other d hk =>
    by_cases ho : other = uri
    · subst ho
      exact h.publish hk
    · exact h.snoc _ (by simp [publishedVersions_ofDocument, ho]) (by simp)

theorem Run.ordered {debounce : Nat} {uri : Uri} {es : List Event} {w : Workspace}
    (h : Run (start debounce) es w) (hv : (versionsOf uri es).Pairwise (· < ·)) :
    Ordered uri es w := by
  induction h with
  | refl => exact ⟨by simp [start, publishedVersions, publishedFor], by simp [start],
      by simp [start, publishedVersions, publishedFor]⟩
  | @snoc w w' es e hr hs ih =>
    rw [versionsOf_append, List.pairwise_append] at hv
    have ih := ih hv.1
    by_cases he : e = .worked
    · subst he
      exact hs.workerStep.ordered hv.1 (hr.get?_eq uri) ih
    · refine ih.snoc e (by rw [hs.published_eq he]) ?_
      intro d hd
      rwa [hs.worker_eq he] at hd

/-- How `p` came to be published behind `before`: the client updated the document to `d`; the worker
took its snapshot when nothing had happened to the document since; and it published that snapshot,
whatever had happened by then. -/
def PublishedFrom (w₀ : Workspace) (es : List Event) (w : Workspace) (before : List Publication)
    (p : Publication) (d : Document) : Prop :=
  ∃ older newer between after w₁ w₂ w₃ w₄,
    es = (older ++ .updated p.uri d.version d.content :: newer) ++ .worked :: between ++
      .worked :: after ∧
    (∀ e ∈ newer, e.uri? ≠ some p.uri) ∧
    -- the snapshot
    Run w₀ (older ++ .updated p.uri d.version d.content :: newer) w₁ ∧
    w₁.worker = .confirmed p.uri ∧ w₁.documents.get? p.uri = some d ∧
    Step w₁ .worked w₂ ∧ w₂.worker = .holding p.uri d ∧
    -- the publication: the next step of the worker
    Run w₂ between w₃ ∧ .worked ∉ between ∧ w₃.published = before ∧
    Step w₃ .worked w₄ ∧ w₄.published = before ++ [p] ∧ Run w₄ after w

/-- **Every publication is a consistent snapshot.** Diagnostics with a version are those of one
update, version and text together, which was the stored document when the snapshot was taken. If
the client's versions of a document always grow, those published for it never go down. -/
theorem published_snapshots {debounce : Nat} {es : List Event} {w : Workspace}
    (h : Run (start debounce) es w) :
    (∀ before p behind version, w.published = before ++ p :: behind → p.version = some version →
      ∃ content, p.diagnostics = diagnosticsOf (validateText content) content ∧
        PublishedFrom (start debounce) es w before p ⟨version, content⟩) ∧
    ∀ uri, (versionsOf uri es).Pairwise (· < ·) →
      (publishedVersions uri w.published).Pairwise (· ≤ ·) := by
  refine ⟨?_, fun uri hv => (h.ordered hv).sorted⟩
  intro before p behind version hw hv
  obtain ⟨past, after, w₃, w₄, d, rfl, hpast, hk, hp, hb, hpub, hb', hafter⟩ := h.made rfl hw hv
  obtain ⟨past, between, w₁, w₂, rfl, hpast, hc, hg, htake, hh, hbetween, hnone⟩ :=
    hpast.taken rfl hk
  obtain ⟨older, newer, rfl, hn⟩ := stored_eq_some past (hpast.get?_eq p.uri ▸ hg)
  obtain rfl : d.version = version := by
    rw [hp] at hv
    exact Option.some.inj hv
  exact ⟨d.content, by rw [hp]; rfl, older, newer, between, after, w₁, w₂, w₃, w₄, by simp, hn,
    hpast, hc, hg, htake, hh, hbetween, hnone, hb, hpub, hb', hafter⟩

/-- The document is edited after its version was found to be the latest, and again after the
snapshot: the second version is published, with the text of the second version. -/
theorem published_snapshots_overtaken :
    ∃ w es, es = [.updated "app.yaml" 1 "a: 1".toList, .fired ⟨0, "app.yaml", 1⟩, .worked, .worked,
        .updated "app.yaml" 2 "b: 1".toList, .worked, .updated "app.yaml" 3 "c: 1".toList,
        .worked] ∧
      Run (start 0) es w ∧ w.published = [.ofDocument "app.yaml" ⟨2, "b: 1".toList⟩] ∧
      (∃ content, diagnose "b: 1".toList = diagnosticsOf (validateText content) content ∧
        PublishedFrom (start 0) es w [] (.ofDocument "app.yaml" ⟨2, "b: 1".toList⟩)
          ⟨2, content⟩) ∧
      (publishedVersions "app.yaml" w.published).Pairwise (· ≤ ·) := by
  have h : Run (start 0) [.updated "app.yaml" 1 "a: 1".toList, .fired ⟨0, "app.yaml", 1⟩, .worked,
      .worked, .updated "app.yaml" 2 "b: 1".toList, .worked, .updated "app.yaml" 3 "c: 1".toList,
      .worked] _ :=
    (Run.refl (start 0)).snoc (.update _ _ _ _) |>.snoc (.fire _ [] _ [] rfl)
      |>.snoc (.work _ (by decide)) |>.snoc (.work _ (by decide)) |>.snoc (.update _ _ _ _)
      |>.snoc (.work _ (by decide)) |>.snoc (.update _ _ _ _) |>.snoc (.work _ (by decide))
  exact ⟨_, _, rfl, h, rfl, (published_snapshots h).1 [] _ [] 2 rfl rfl,
    (published_snapshots h).2 "app.yaml" (by decide)⟩

end AppConfig.Editor.Workspace
