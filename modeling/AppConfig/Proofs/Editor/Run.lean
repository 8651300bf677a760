import AppConfig.Editor.Worker
import Mathlib.Data.List.Induction

/-!
# AppConfig.Proofs.Editor.Run

Runs of a workspace: edits, closes, timers, the clock and the worker in any order.

* `Run w es w'` — the steps with the events `es` take `w` to `w'`.
* `WorkerStep w w'` — the worker's step, one case for each thing it can do. `work_step` says that
  `work` does one of them.
* `stored uri es` — the document that a run leaves under `uri`, read off its events alone:
  `Run.get?_eq` says that the store holds it.
* `perform_run` — an action that is performed is a run: the event of the action, then work.
-/

namespace AppConfig.Editor.Workspace

/-- The document that an event of the client is about. -/
def Event.uri? : Event → Option Uri
  | .updated uri _ _ => some uri
  | .closed uri => some uri
  | .fired _ => none
  | .passed _ => none
  | .worked => none

/-- Steps that need no client and no clock: timers and the worker. -/
def Event.isWork : Event → Bool
  | .fired _ => true
  | .worked => true
  | .updated _ _ _ => false
  | .closed _ => false
  | .passed _ => false

inductive Run : Workspace → List Event → Workspace → Prop where
  | refl (w : Workspace) : Run w [] w
  | snoc {w w' w'' : Workspace} {es : List Event} {e : Event} :
      Run w es w' → Step w' e w'' → Run w (es ++ [e]) w''

namespace Run

theorem single {w w' : Workspace} {e : Event} (h : Step w e w') : Run w [e] w' :=
  .snoc (.refl w) h

theorem trans {w w' w'' : Workspace} {es es' : List Event} (h₁ : Run w es w')
    (h₂ : Run w' es' w'') : Run w (es ++ es') w'' := by
  induction h₂ with
  | refl => simpa using h₁
  | snoc _ hs ih =>
    rw [← List.append_assoc]
    exact .snoc ih hs

end Run

/-! ## The worker, case by case -/

@[simp] theorem publish_documents (w : Workspace) (p : Publication) :
    (w.publish p).documents = w.documents := rfl

@[simp] theorem publish_worker (w : Workspace) (p : Publication) :
    (w.publish p).worker = .idle := rfl

@[simp] theorem publish_published (w : Workspace) (p : Publication) :
    (w.publish p).published = w.published ++ [p] := rfl

inductive WorkerStep (w : Workspace) : Workspace → Prop where
  | receive {r : Request} {rest : List Request} :
      w.worker = .idle → w.documents.queue = r :: rest →
      WorkerStep w { w with worker := .received r, documents := { w.documents with queue := rest } }
  | confirm {uri : Uri} {version : Int} :
      w.worker = .received (.validate uri version) → w.documents.isCurrent uri version = true →
      WorkerStep w { w with worker := .confirmed uri }
  /-- The request is for a version that is not the latest one. -/
  | skip {uri : Uri} {version : Int} :
      w.worker = .received (.validate uri version) → w.documents.isCurrent uri version = false →
      WorkerStep w { w with worker := .idle }
  | clear {uri : Uri} :
      w.worker = .received (.clear uri) → WorkerStep w (w.publish (.cleared uri))
  | snapshot {uri : Uri} {d : Document} :
      w.worker = .confirmed uri → w.documents.get? uri = some d →
      WorkerStep w { w with worker := .holding uri d }
  /-- The document was closed after its version was looked at. -/
  | miss {uri : Uri} :
      w.worker = .confirmed uri → w.documents.get? uri = none →
      WorkerStep w { w with worker := .idle }
  | publish {uri : Uri} {d : Document} :
      w.worker = .holding uri d → WorkerStep w (w.publish (.ofDocument uri d))

theorem work_step {w : Workspace} (h : w.workload ≠ 0) : WorkerStep w w.work := by
  unfold work
  split
  · rename_i hw
    split
    · rename_i hq; simp [workload, hw, hq] at h
    · rename_i hq; exact .receive hw hq
  · rename_i hw
    split
    · rename_i hc; exact .confirm hw hc
    · rename_i hc; exact .skip hw (by simpa using hc)
  · rename_i hw; exact .clear hw
  · rename_i hw
    split
    · rename_i hg; exact .snapshot hw hg
    · rename_i hg; exact .miss hw hg
  · rename_i hw; exact .publish hw

theorem WorkerStep.store_eq {w w' : Workspace} (h : WorkerStep w w') :
    w'.documents.store = w.documents.store := by
  cases h <;> rfl

theorem WorkerStep.timers_eq {w w' : Workspace} (h : WorkerStep w w') :
    w'.documents.timers = w.documents.timers := by
  cases h <;> rfl

/-- The worker changes nothing of the documents but the queue. -/
theorem WorkerStep.documents_eq {w w' : Workspace} (h : WorkerStep w w') :
    w'.documents = { w.documents with queue := w'.documents.queue } := by
  cases h <;> rfl

/-! ## The store after a run -/

/-- What an event makes of the document under `uri`. -/
def Event.leave (uri : Uri) (d : Option Document) : Event → Option Document
  | .updated other version content => if uri = other then some ⟨version, content⟩ else d
  | .closed other => if uri = other then none else d
  | .fired _ => d
  | .passed _ => d
  | .worked => d

/-- The document that the events leave under `uri`. -/
def stored (uri : Uri) (es : List Event) : Option Document := es.foldl (Event.leave uri) none

@[simp] theorem stored_nil (uri : Uri) : stored uri [] = none := rfl

@[simp] theorem stored_snoc (uri : Uri) (es : List Event) (e : Event) :
    stored uri (es ++ [e]) = e.leave uri (stored uri es) := by
  simp [stored]

theorem Event.leave_of_ne {uri : Uri} {e : Event} (h : e.uri? ≠ some uri) (d : Option Document) :
    e.leave uri d = d := by
  cases e with
  | updated other version content =>
    have hne : uri ≠ other := fun he => h (by simp [uri?, he])
    simp [leave, hne]
  | closed other =>
    have hne : uri ≠ other := fun he => h (by simp [uri?, he])
    simp [leave, hne]
  | fired t => rfl
  | passed ms => rfl
  | worked => rfl

/-- A stored document is that of one update, and nothing has happened to it since. -/
theorem stored_eq_some {uri : Uri} {d : Document} (es : List Event) (h : stored uri es = some d) :
    ∃ older newer, es = older ++ .updated uri d.version d.content :: newer ∧
      ∀ e ∈ newer, e.uri? ≠ some uri := by
  induction es using List.reverseRecOn with
  | nil => simp at h
  | append_singleton es e ih =>
    rw [stored_snoc] at h
    by_cases he : e.uri? = some uri
    · cases e with
      | updated other version content =>
        obtain rfl : other = uri := by simpa [Event.uri?] using he
        simp only [Event.leave, if_true, Option.some.injEq] at h
        subst h
        exact ⟨es, [], rfl, by simp⟩
      | closed other =>
        obtain rfl : other = uri := by simpa [Event.uri?] using he
        simp [Event.leave] at h
      | fired t => simp [Event.uri?] at he
      | passed ms => simp [Event.uri?] at he
      | worked => simp [Event.uri?] at he
    · rw [Event.leave_of_ne he] at h
      obtain ⟨older, newer, rfl, hn⟩ := ih h
      refine ⟨older, newer ++ [e], by simp, ?_⟩
      intro x hx
      rcases List.mem_append.mp hx with hx | hx
      · exact hn x hx
      · rw [List.mem_singleton.mp hx]; exact he

theorem Step.get?_eq {w w' : Workspace} {e : Event} (h : Step w e w') (uri : Uri) :
    w'.documents.get? uri = e.leave uri (w.documents.get? uri) := by
  cases h with
  | update other version content => exact Store.get?_put _ other uri _
  | close other => exact Store.get?_erase _ other uri
  | fire before t behind _ => rfl
  | pass ms => rfl
  | work hw =>
    simp only [Documents.get?, (work_step hw).store_eq, Event.leave]

/-- Documents stay as they are while the client is still. -/
theorem Run.get?_of_unattended {w w' : Workspace} {es : List Event} (h : Run w es w')
    (hes : ∀ e ∈ es, e.uri? = none) (uri : Uri) :
    w'.documents.get? uri = w.documents.get? uri := by
  induction h with
  | refl => rfl
  | @snoc _ _ es e _ hs ih =>
    have he := hes e (by simp)
    rw [hs.get?_eq, Event.leave_of_ne (by simp [he]),
      ih fun e he => hes e (List.mem_append_left _ he)]

theorem Run.get?_eq {debounce : Nat} {es : List Event} {w : Workspace}
    (h : Run (start debounce) es w) (uri : Uri) : w.documents.get? uri = stored uri es := by
  induction h with
  | refl => rfl
  | snoc _ hs ih => rw [stored_snoc, hs.get?_eq, ih]

/-! ## What is performed -/

/-- A run of timers and the worker. -/
def WorkRun (w w' : Workspace) : Prop := ∃ es, Run w es w' ∧ ∀ e ∈ es, e.isWork = true

namespace WorkRun

theorem refl (w : Workspace) : WorkRun w w := ⟨[], .refl w, by simp⟩

theorem head {w w' w'' : Workspace} {e : Event} (hs : Step w e w') (he : e.isWork = true)
    (h : WorkRun w' w'') : WorkRun w w'' := by
  obtain ⟨es, hr, hes⟩ := h
  refine ⟨[e] ++ es, (Run.single hs).trans hr, ?_⟩
  intro e' he'
  rcases List.mem_append.mp he' with he' | he'
  · rw [List.mem_singleton.mp he']; exact he
  · exact hes e' he'

theorem trans {w w' w'' : Workspace} (h₁ : WorkRun w w') (h₂ : WorkRun w' w'') :
    WorkRun w w'' := by
  obtain ⟨es, hr, hes⟩ := h₁
  obtain ⟨es', hr', hes'⟩ := h₂
  exact ⟨es ++ es', hr.trans hr', List.forall_mem_append.mpr ⟨hes, hes'⟩⟩

end WorkRun

/-- The timers behind `kept` that have run out are fired one after the other. -/
theorem workRun_fire {kept ts : List Timer} {w : Workspace}
    (h : w.documents.timers = kept ++ ts) :
    WorkRun w { w with documents := { w.documents with
      timers := kept ++ ts.filter (w.documents.clock < ·.due)
      queue := w.documents.queue ++
        (ts.filter (·.due ≤ w.documents.clock)).map Timer.request } } := by
  induction ts generalizing kept w with
  | nil =>
    simp only [List.filter_nil, List.map_nil, List.append_nil]
    rw [List.append_nil] at h
    rw [← h]
    exact .refl w
  | cons t ts ih =>
    by_cases ht : t.due ≤ w.documents.clock
    · rw [List.filter_cons_of_neg (by simpa using ht), List.filter_cons_of_pos (by simpa using ht),
        List.map_cons, List.append_cons w.documents.queue]
      exact WorkRun.head (.fire w kept t ts h) rfl (ih rfl)
    · rw [List.filter_cons_of_pos (by simpa using ht), List.filter_cons_of_neg (by simpa using ht),
        List.append_cons kept]
      exact ih (by rw [h, List.append_cons])

theorem workRun_fireDue (w : Workspace) : WorkRun w w.fireDue :=
  workRun_fire (List.nil_append _).symm

theorem queue_and_worker_of_workload {w : Workspace} (h : w.workload = 0) :
    w.documents.queue = [] ∧ w.worker = .idle := by
  unfold workload at h
  refine ⟨List.length_eq_zero_iff.mp (by omega), ?_⟩
  cases hk : w.worker with
  | idle => rfl
  | received r => simp [hk] at h
  | confirmed uri => simp [hk] at h
  | holding uri d => simp [hk] at h

theorem work_eq_self {w : Workspace} (h : w.workload = 0) : w.work = w := by
  obtain ⟨hq, hw⟩ := queue_and_worker_of_workload h
  simp only [work, hw, hq]

theorem workRun_workFor (n : Nat) (w : Workspace) : WorkRun w (workFor n w) := by
  induction n generalizing w with
  | zero => exact .refl w
  | succ n ih =>
    rw [workFor]
    by_cases hw : w.workload = 0
    · rw [work_eq_self hw]
      exact ih w
    · exact (ih w.work).head (.work w hw) rfl

theorem workRun_settle (w : Workspace) : WorkRun w w.settle :=
  (workRun_fireDue w).trans (workRun_workFor _ _)

/-- What an action does to the documents and the clock. -/
def Action.events : Action → List Event
  | .update uri version content => [.updated uri version content]
  | .change uri version texts => texts.getLast?.toList.map (.updated uri version)
  | .close uri => [.closed uri]
  | .hover _ _ => []
  | .completion _ _ => []
  | .advance ms => [.passed ms]
  | .nothing => []

theorem act_run (w : Workspace) (a : Action) : Run w a.events (w.act a).1 := by
  cases a with
  | update uri version content => exact .single (.update w uri version content)
  | change uri version texts =>
    cases ht : texts.getLast? with
    | none => simpa [Action.events, act, change, Documents.change, ht] using Run.refl w
    | some content =>
      simp only [Action.events, act, change, Documents.change, ht, Option.toList_some]
      exact .single (.update w uri version content)
  | close uri => exact .single (.close w uri)
  | hover uri line => exact .refl w
  | completion uri line => exact .refl w
  | advance ms => exact .single (.pass w ms)
  | nothing => exact .refl w

/-- An action that is performed is a run: what the action does, and then work. -/
theorem perform_run (w : Workspace) (a : Action) :
    ∃ es, Run w (a.events ++ es) (w.perform a).1 ∧ ∀ e ∈ es, e.isWork = true := by
  obtain ⟨es, hr, hes⟩ := workRun_settle (w.act a).1
  exact ⟨es, (act_run w a).trans hr, hes⟩

end AppConfig.Editor.Workspace
