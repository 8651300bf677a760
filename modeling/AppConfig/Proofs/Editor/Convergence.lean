import AppConfig.Proofs.Editor.Forecast

/-!
# AppConfig.Proofs.Editor.Convergence

Diagnostics converge to the truth. Once the client is still, the timers run out and the worker
empties its queue, in finitely many steps and whatever their order. What was published last for a
document is then what its stored text deserves, or nothing at all if it is closed. Versions may be
repeated, may go down, and may start again after a document is opened anew.

* `Assured` — the invariant: the truth about a document is the last thing forecast for it, or a
  timer for the stored version is still to run out. An edit starts such a timer; when it runs out,
  its request joins the queue behind all that could contradict it.
* `backlog` — the measure: every timer and every step of the worker lowers it.
-/

namespace AppConfig.Editor.Workspace

/-- What was published last for a document. -/
def latest? (w : Workspace) (uri : Uri) : Option Publication :=
  (publishedFor uri w.published).getLast?

/-- What ought to be shown for a document. -/
def truth (s : Store) (uri : Uri) : Publication :=
  match s.get? uri with
  | some d => .ofDocument uri d
  | none => .cleared uri

/-! ## The truth is on its way -/

inductive Assured (w : Workspace) (uri : Uri) : Prop where
  | scheduled {t : Timer} : t ∈ w.documents.timers →
      answer? w.documents.store t.request = some (truth w.documents.store uri) → Assured w uri
  | foreseen : (w.forecastFor uri).getLast? = some (truth w.documents.store uri) → Assured w uri

@[simp] theorem truth_uri (s : Store) (uri : Uri) : (truth s uri).uri = uri := by
  unfold truth
  split <;> rfl

theorem truth_congr {s s' : Store} {uri : Uri} (h : s.get? uri = s'.get? uri) :
    truth s uri = truth s' uri := by
  simp only [truth, h]

/-- A timer that is answered at all is answered with the truth. -/
theorem answer?_request {s : Store} {t : Timer} {p : Publication}
    (h : answer? s t.request = some p) : p = truth s t.uri := by
  simp only [Timer.request, answer?, Option.map_eq_some_iff, Option.filter_eq_some_iff] at h
  obtain ⟨d, ⟨hd, _⟩, rfl⟩ := h
  simp only [truth, hd]

theorem answer?_truth_congr {s s' : Store} {uri : Uri} {r : Request}
    (h : s'.get? uri = s.get? uri) (hr : answer? s r = some (truth s uri)) :
    answer? s' r = some (truth s' uri) := by
  have hf := filter_answer?_congr h r
  rw [hr, Option.filter_some, truth_uri, beq_self_eq_true, if_pos rfl,
    Option.filter_eq_some_iff] at hf
  rw [hf.1, truth_congr h]

theorem getLast?_append_of_forall_eq {α : Type} {l l' : List α} {x : α} (hx : ∀ y ∈ l', y = x)
    (h : x ∈ l' ∨ l.getLast? = some x) : (l ++ l').getLast? = some x := by
  rw [List.getLast?_append]
  cases hl : l'.getLast? with
  | none =>
    rw [List.getLast?_eq_none_iff] at hl
    simpa [hl] using h
  | some y => rw [hx y (List.mem_of_getLast? hl), Option.some_or]

/-- What keeps a document assured: its timers run on or put their requests on the queue, and no
request that joins the queue contradicts the truth. -/
theorem Assured.of_append {w w' : Workspace} {uri : Uri} (h : Assured w uri) (rs : List Request)
    (hp : w'.published = w.published) (hw : w'.worker = w.worker)
    (hq : w'.documents.queue = w.documents.queue ++ rs)
    (hs : w'.documents.store.get? uri = w.documents.store.get? uri)
    (ht : ∀ t ∈ w.documents.timers, t ∈ w'.documents.timers ∨ t.request ∈ rs)
    (hr : ∀ r ∈ rs, ∀ p, answer? w'.documents.store r = some p → p.uri = uri →
      p = truth w'.documents.store uri) : Assured w' uri := by
  have hf := forecastFor_append hp hw hq hs
  have heq : ∀ p ∈ publishedFor uri (rs.filterMap (answer? w'.documents.store)),
      p = truth w'.documents.store uri := by
    intro p hm
    simp only [publishedFor, List.mem_filter, List.mem_filterMap, beq_iff_eq] at hm
    obtain ⟨⟨r, hrs, ha⟩, hu⟩ := hm
    exact hr r hrs p ha hu
  cases h with
  | @scheduled t hm ha =>
    -- either the timer still runs, or its answer is now at the end of the forecast
    have ha' := answer?_truth_congr hs ha
    rcases ht t hm with hm' | hm'
    · exact .scheduled hm' ha'
    · refine .foreseen ?_
      rw [hf]
      refine getLast?_append_of_forall_eq heq (.inl ?_)
      simp only [publishedFor, List.mem_filter, List.mem_filterMap, truth_uri, beq_self_eq_true,
        and_true]
      exact ⟨t.request, hm', ha'⟩
  | foreseen hl =>
    refine .foreseen ?_
    rw [hf]
    exact getLast?_append_of_forall_eq heq (.inr (by rw [hl, truth_congr hs]))

/-- An edit of a document starts the timer that it needs, and a close asks for the clear. -/
theorem Step.assured_of_client {w w' : Workspace} {e : Event} {uri : Uri} (h : Step w e w')
    (he : e.uri? = some uri) : Assured w' uri := by
  cases h with
  | update other version content =>
    obtain rfl : other = uri := by simpa [Event.uri?] using he
    have hg : (w.update other version content).documents.store.get? other =
        some ⟨version, content⟩ := by
      simp [Workspace.update, Documents.update, Store.get?_put]
    refine .scheduled (t := ⟨w.documents.clock + w.documents.debounce, other, version⟩) ?_ ?_
    · simp [Workspace.update, Documents.update]
    · simp [Timer.request, answer?, truth, hg]
  | close other =>
    obtain rfl : other = uri := by simpa [Event.uri?] using he
    refine .foreseen ?_
    simp [forecastFor, forecast, publishedFor, Workspace.close, Documents.close, answer?, truth,
      Publication.cleared, Store.get?_erase]
  | fire before t behind _ => simp [Event.uri?] at he
  | pass ms => simp [Event.uri?] at he
  | work _ => simp [Event.uri?] at he

theorem Step.assured_of_ne {w w' : Workspace} {e : Event} {uri : Uri} (h : Step w e w')
    (he : e.uri? ≠ some uri) (ha : Assured w uri) : Assured w' uri := by
  have hg : w'.documents.store.get? uri = w.documents.store.get? uri := by
    have := h.get?_eq uri
    rwa [Event.leave_of_ne he] at this
  cases h with
  | update other version content =>
    refine ha.of_append [] rfl rfl (by simp [Workspace.update, Documents.update]) hg ?_
      (by simp)
    intro t ht
    exact .inl (List.mem_append_left _ ht)
  | close other =>
    refine ha.of_append [.clear other] rfl rfl rfl hg (fun t ht => .inl ht) ?_
    intro r hr p hp hu
    rw [List.mem_singleton.mp hr, answer?, Option.some.injEq] at hp
    subst hp
    exact absurd (congrArg some hu) he
  | fire before t behind ht =>
    -- the request may be a stale one of a reused version, but then it too is answered with the truth
    refine ha.of_append [t.request] rfl rfl rfl hg ?_ ?_
    · intro t' ht'
      rw [ht, List.mem_append, List.mem_cons] at ht'
      rcases ht' with ht' | rfl | ht'
      · exact .inl (List.mem_append_left _ ht')
      · exact .inr (List.mem_singleton_self _)
      · exact .inl (List.mem_append_right _ ht')
    · intro r hr p hp hu
      rw [List.mem_singleton.mp hr] at hp
      have hpt := answer?_request hp
      rwa [← show t.uri = uri by rw [← hu, hpt, truth_uri]]
  | pass ms =>
    exact ha.of_append [] rfl rfl (by simp [Workspace.advance, Documents.advance]) hg
      (fun t ht => .inl ht) (by simp)
  | work hw =>
    have hws := work_step hw
    cases ha with
    | scheduled hm hr =>
      refine .scheduled (by rwa [hws.timers_eq]) ?_
      rwa [hws.store_eq]
    | foreseen hl =>
      refine .foreseen ?_
      rwa [forecastFor, hws.forecast_eq, hws.store_eq]

theorem Run.assured {debounce : Nat} {es : List Event} {w : Workspace} {uri : Uri}
    (h : Run (start debounce) es w) (he : ∃ e ∈ es, e.uri? = some uri) : Assured w uri := by
  induction h with
  | refl => simp at he
  | @snoc _ _ es e _ hs ih =>
    by_cases hu : e.uri? = some uri
    · exact hs.assured_of_client hu
    · refine hs.assured_of_ne hu (ih ?_)
      obtain ⟨e', he', hu'⟩ := he
      rcases List.mem_append.mp he' with he' | he'
      · exact ⟨e', he', hu'⟩
      · rw [List.mem_singleton.mp he'] at hu'
        exact absurd hu' hu

/-! ## Timers and queue run empty -/

structure Quiescent (w : Workspace) : Prop where
  timers : w.documents.timers = []
  queue : w.documents.queue = []
  worker : w.worker = .idle

/-- How many steps are left at most: a timer is one, and its request takes the worker four. -/
def backlog (w : Workspace) : Nat := 5 * w.documents.timers.length + w.workload

theorem WorkerStep.workload_lt {w w' : Workspace} (h : WorkerStep w w') :
    w'.workload < w.workload := by
  cases h with
  | receive hw hq => simp only [workload, hw, hq, List.length_cons]; omega
  | confirm hw _ => simp [workload, hw]
  | skip hw _ => simp [workload, hw]
  | clear hw => simp [workload, hw]
  | snapshot hw _ => simp [workload, hw]
  | miss hw _ => simp [workload, hw]
  | publish hw => simp [workload, hw]

theorem Step.backlog_lt {w w' : Workspace} {e : Event} (h : Step w e w')
    (he : e.isWork = true) : w'.backlog < w.backlog := by
  cases h with
  | update => simp [Event.isWork] at he
  | close => simp [Event.isWork] at he
  | fire before t behind ht =>
    simp only [backlog, workload, Workspace.fire, ht, List.length_append, List.length_cons,
      List.length_nil]
    omega
  | pass => simp [Event.isWork] at he
  | work hw =>
    have hws := work_step hw
    have := hws.workload_lt
    simp only [backlog, hws.timers_eq]
    omega

theorem Run.countP_add_backlog_le {w w' : Workspace} {es : List Event} (h : Run w es w')
    (hes : ∀ e ∈ es, e.uri? = none) : es.countP Event.isWork + w'.backlog ≤ w.backlog := by
  induction h with
  | refl => simp
  | @snoc w₁ w₂ es e _ hs ih =>
    have ih := ih fun e he => hes e (List.mem_append_left _ he)
    have he := hes e (by simp)
    rw [List.countP_append, List.countP_singleton]
    by_cases hw : e.isWork = true
    · have := hs.backlog_lt hw
      rw [if_pos hw]
      omega
    · rw [if_neg hw]
      cases hs with
      | update => simp [Event.uri?] at he
      | close => simp [Event.uri?] at he
      | fire => simp [Event.isWork] at hw
      | pass ms => exact ih
      | work => simp [Event.isWork] at hw

theorem quiescent_or_step (w : Workspace) :
    w.Quiescent ∨ ∃ e w', e.isWork = true ∧ Step w e w' := by
  cases ht : w.documents.timers with
  | cons t behind => exact .inr ⟨_, _, rfl, .fire w [] t behind ht⟩
  | nil =>
    by_cases hw : w.workload = 0
    · obtain ⟨hq, hk⟩ := queue_and_worker_of_workload hw
      exact .inl ⟨ht, hq, hk⟩
    · exact .inr ⟨_, _, rfl, .work w hw⟩

theorem exists_quiescent (w : Workspace) : ∃ w', WorkRun w w' ∧ w'.Quiescent := by
  induction hb : w.backlog using Nat.strongRecOn generalizing w with
  | ind n ih =>
    rcases quiescent_or_step w with hq | ⟨e, w₁, he, hs⟩
    · exact ⟨w, .refl w, hq⟩
    · obtain ⟨w', hr, hq⟩ := ih _ (hb ▸ hs.backlog_lt he) w₁ rfl
      exact ⟨w', hr.head hs he, hq⟩

theorem latest?_of_quiescent {w : Workspace} {uri : Uri} (hq : w.Quiescent)
    (ha : Assured w uri) : w.latest? uri = some (truth w.documents.store uri) := by
  cases ha with
  | scheduled hm _ => rw [hq.timers] at hm; simp at hm
  | foreseen hl =>
    rw [← hl]
    simp [latest?, forecastFor, forecast, hq.worker, hq.queue, outcome?]

/-- **Diagnostics converge to the truth.** From every state that a run reaches, timers and worker
come to rest: no run without the client takes more of their steps than the backlog counts, it can
stop only where nothing is left to do, and some run gets there. At rest, the last publication for
each document that was ever opened or changed shows the stored text, or is empty if the document is
closed. -/
theorem diagnostics_converge {debounce : Nat} {past : List Event} {w : Workspace}
    (h : Run (start debounce) past w) :
    (∃ future w', Run w future w' ∧ (∀ e ∈ future, e.isWork = true) ∧ w'.Quiescent) ∧
    ∀ future w', Run w future w' → (∀ e ∈ future, e.uri? = none) →
      future.countP Event.isWork ≤ w.backlog ∧
      ((∀ e w'', e.isWork = true → ¬ Step w' e w'') → w'.Quiescent) ∧
      (w'.Quiescent → ∀ uri version content, .updated uri version content ∈ past →
        w'.documents.get? uri = w.documents.get? uri ∧
        (∀ d, w'.documents.get? uri = some d →
          w'.latest? uri =
            some ⟨uri, some d.version, diagnosticsOf (validateText d.content) d.content⟩) ∧
        (w'.documents.get? uri = none → w'.latest? uri = some ⟨uri, none, []⟩)) := by
  obtain ⟨w₁, ⟨future₁, hr₁, hf₁⟩, hq₁⟩ := exists_quiescent w
  refine ⟨⟨future₁, w₁, hr₁, hf₁, hq₁⟩, ?_⟩
  intro future w' hr hf
  refine ⟨?_, ?_, ?_⟩
  · have := hr.countP_add_backlog_le hf
    omega
  · intro hstuck
    rcases quiescent_or_step w' with hq | ⟨e, w'', he, hs⟩
    · exact hq
    · exact absurd hs (hstuck e w'' he)
  · intro hq uri version content hmem
    have ha : Assured w' uri :=
      (h.trans hr).assured ⟨_, List.mem_append_left _ hmem, rfl⟩
    have hl := latest?_of_quiescent hq ha
    refine ⟨hr.get?_of_unattended hf uri, ?_, ?_⟩
    · intro d hd
      rw [Documents.get?] at hd
      simp only [hl, truth, hd]
      rfl
    · intro hd
      rw [Documents.get?] at hd
      simp only [hl, truth, hd]
      rfl

/-- A document is closed and opened anew under its old version while its first request is with the
worker. -/
def reopened : Workspace :=
  ((((start 0).update "app.yaml" 1 "a: 1".toList).fire [] ⟨0, "app.yaml", 1⟩ []).work.close
    "app.yaml").update "app.yaml" 1 "b: 1".toList

/-- The first request is taken for the new text, then the clear is published, and then the new text
again. -/
theorem diagnostics_converge_reopened :
    Run (start 0) [.updated "app.yaml" 1 "a: 1".toList, .fired ⟨0, "app.yaml", 1⟩, .worked,
      .closed "app.yaml", .updated "app.yaml" 1 "b: 1".toList] reopened ∧
    ∃ w', Run reopened (List.replicate 5 .worked ++ .fired ⟨0, "app.yaml", 1⟩ ::
        List.replicate 4 .worked) w' ∧ w'.Quiescent ∧
      w'.published.map (·.version) = [some 1, none, some 1] ∧
      w'.latest? "app.yaml" = some ⟨"app.yaml", some 1,
        diagnosticsOf (validateText "b: 1".toList) "b: 1".toList⟩ := by
  have hpast : Run (start 0) [.updated "app.yaml" 1 "a: 1".toList, .fired ⟨0, "app.yaml", 1⟩,
      .worked, .closed "app.yaml", .updated "app.yaml" 1 "b: 1".toList] reopened :=
    (Run.refl (start 0)).snoc (.update _ _ _ _) |>.snoc (.fire _ [] _ [] rfl)
      |>.snoc (.work _ (by decide)) |>.snoc (.close _ _) |>.snoc (.update _ _ _ _)
  have hfuture : Run reopened (List.replicate 5 .worked ++ .fired ⟨0, "app.yaml", 1⟩ ::
      List.replicate 4 .worked) _ :=
    (Run.refl reopened).snoc (.work _ (by decide)) |>.snoc (.work _ (by decide))
      |>.snoc (.work _ (by decide)) |>.snoc (.work _ (by decide)) |>.snoc (.work _ (by decide))
      |>.snoc (.fire _ [] _ [] rfl) |>.snoc (.work _ (by decide)) |>.snoc (.work _ (by decide))
      |>.snoc (.work _ (by decide)) |>.snoc (.work _ (by decide))
  obtain ⟨_, _, hall⟩ := (diagnostics_converge hpast).2 _ _ hfuture (by decide)
  have hlast := (hall ⟨rfl, rfl, rfl⟩ "app.yaml" 1 "b: 1".toList (by decide)).2.1 _ rfl
  exact ⟨hpast, _, hfuture, ⟨rfl, rfl, rfl⟩, rfl, hlast⟩

end AppConfig.Editor.Workspace
