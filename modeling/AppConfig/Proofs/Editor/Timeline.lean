import AppConfig.Proofs.Editor.Convergence

/-!
# AppConfig.Proofs.Editor.Timeline

Timed runs: the client acts step by step, and all work that is due is done after each step.

* `settle_documents`, `settle_published` — what is left of a workspace when the work is done. The
  worker need not be followed: it publishes what was forecast.
* `perform_documents`, `perform_published` — what one step leaves of a workspace at rest. All else
  about timed runs comes from these two.
* `stages` — a timed run, step by step.
* `timeline` — all that is published in a timed run, each with the number of its step.
-/

namespace AppConfig.Editor.Workspace

/-! ## The work that is due -/

theorem workFor_documents (n : Nat) (w : Workspace) :
    (workFor n w).documents = { w.documents with queue := (workFor n w).documents.queue } := by
  induction n generalizing w with
  | zero => rfl
  | succ n ih =>
    rw [workFor]
    by_cases hw : w.workload = 0
    · rw [work_eq_self hw]
      exact ih w
    · rw [ih w.work, (work_step hw).documents_eq]

theorem forecast_workFor (n : Nat) (w : Workspace) : (workFor n w).forecast = w.forecast := by
  induction n generalizing w with
  | zero => rfl
  | succ n ih =>
    rw [workFor, ih]
    by_cases hw : w.workload = 0
    · rw [work_eq_self hw]
    · exact (work_step hw).forecast_eq

theorem workload_workFor {n : Nat} {w : Workspace} (h : w.workload ≤ n) :
    (workFor n w).workload = 0 := by
  induction n generalizing w with
  | zero => exact Nat.le_zero.mp h
  | succ n ih =>
    rw [workFor]
    apply ih
    by_cases hw : w.workload = 0
    · rw [work_eq_self hw, hw]
      exact Nat.zero_le n
    · have := (work_step hw).workload_lt
      omega

/-- The worker has nothing to do. -/
structure Rested (w : Workspace) : Prop where
  queue : w.documents.queue = []
  worker : w.worker = .idle

theorem rested_of_workload {w : Workspace} (h : w.workload = 0) : w.Rested :=
  ⟨(queue_and_worker_of_workload h).1, (queue_and_worker_of_workload h).2⟩

theorem Rested.forecast_eq {w : Workspace} (h : w.Rested) : w.forecast = w.published := by
  simp [forecast, h.queue, h.worker, outcome?]

theorem settle_rested (w : Workspace) : w.settle.Rested :=
  rested_of_workload (workload_workFor (Nat.le_refl _))

theorem settle_documents (w : Workspace) :
    w.settle.documents = { w.documents with
      timers := w.documents.timers.filter (w.documents.clock < ·.due), queue := [] } := by
  rw [settle, workFor_documents, ← settle, (settle_rested w).queue]
  rfl

theorem settle_published (w : Workspace) : w.settle.published = w.fireDue.forecast := by
  rw [← (settle_rested w).forecast_eq, settle, forecast_workFor]

/-! ## One step of a timed run -/

namespace Action

/-- By how much an action moves the clock. -/
def duration : Action → Nat
  | .advance ms => ms
  | _ => 0

/-- The document that an action opens or changes, as it is afterwards. -/
def edit? : Action → Option (Uri × Document)
  | .update uri version content => some (uri, ⟨version, content⟩)
  | .change uri version texts => texts.getLast?.map fun content => (uri, ⟨version, content⟩)
  | _ => none

def close? : Action → Option Uri
  | .close uri => some uri
  | _ => none

/-- The document that an action edits or closes. -/
def subject? (a : Action) : Option Uri := (a.edit?.map (·.1)).or a.close?

def applyTo (a : Action) (s : Store) : Store :=
  match a.edit?, a.close? with
  | some (uri, d), _ => s.put uri d
  | none, some uri => s.erase uri
  | none, none => s

/-- The timer that an action starts. -/
def timer? (a : Action) (d : Documents) : Option Timer :=
  a.edit?.map fun e => ⟨d.clock + d.debounce, e.1, e.2.version⟩

theorem get?_applyTo (a : Action) (s : Store) (uri : Uri) :
    (a.applyTo s).get? uri =
      if a.subject? = some uri then a.edit?.map (·.2) else s.get? uri := by
  unfold applyTo subject?
  cases he : a.edit? with
  | some e => simp [Store.get?_put, eq_comm]
  | none =>
    cases hc : a.close? with
    | some other => simp [Store.get?_erase, eq_comm]
    | none => simp

end Action

theorem act_documents (w : Workspace) (a : Action) :
    (w.act a).1.documents = { w.documents with
      clock := w.documents.clock + a.duration
      store := a.applyTo w.documents.store
      timers := w.documents.timers ++ (a.timer? w.documents).toList
      queue := w.documents.queue ++ (a.close?.map Request.clear).toList } := by
  cases a with
  | change uri version texts =>
    cases ht : texts.getLast? with
    | none => simp [act, change, Documents.change, Action.duration, Action.applyTo, Action.edit?,
        Action.timer?, Action.close?, ht]
    | some content => simp [act, change, Documents.change, Documents.update, Action.duration,
        Action.applyTo, Action.edit?, Action.timer?, Action.close?, ht]
  | _ => simp [act, update, Documents.update, close, Documents.close, advance, Documents.advance,
      Action.duration, Action.applyTo, Action.edit?, Action.timer?, Action.close?]

theorem act_worker (w : Workspace) (a : Action) : (w.act a).1.worker = w.worker := by
  cases a <;> rfl

theorem act_published (w : Workspace) (a : Action) : (w.act a).1.published = w.published := by
  cases a <;> rfl

theorem perform_rested (w : Workspace) (a : Action) : (w.perform a).1.Rested :=
  settle_rested _

theorem perform_documents (w : Workspace) (a : Action) :
    (w.perform a).1.documents = { w.documents with
      clock := w.documents.clock + a.duration
      store := a.applyTo w.documents.store
      timers := (w.documents.timers ++ (a.timer? w.documents).toList).filter
        (w.documents.clock + a.duration < ·.due)
      queue := [] } := by
  rw [perform, settle_documents, act_documents]

/-- What a step publishes: the clear of a close, then what the timers that have run out are
answered with. -/
def emitted (w : Workspace) (a : Action) : List Publication :=
  (a.close?.map Publication.cleared).toList ++
    ((w.documents.timers ++ (a.timer? w.documents).toList).filter
      (·.due ≤ w.documents.clock + a.duration)).filterMap
        fun t => answer? (a.applyTo w.documents.store) t.request

theorem filterMap_answer?_clear (s : Store) (uri? : Option Uri) :
    (uri?.map Request.clear).toList.filterMap (answer? s) =
      (uri?.map Publication.cleared).toList := by
  cases uri? with
  | none => rfl
  | some uri => rfl

theorem perform_published {w : Workspace} (h : w.Rested) (a : Action) :
    (w.perform a).1.published = w.published ++ w.emitted a := by
  have hd := act_documents w a
  rw [perform, settle_published]
  simp only [forecast, fireDue, Documents.fireDue, act_worker, act_published, hd, h.worker,
    h.queue, outcome?, Option.toList_none, List.append_nil, List.nil_append, List.filterMap_append,
    filterMap_answer?_clear, List.filterMap_map, emitted]
  rfl

/-! ## A whole run -/

/-- A step of a timed run. -/
structure Stage where
  answer : Answer
  /-- What was published during the step. -/
  published : List Publication
  /-- The workspace after it. -/
  workspace : Workspace

def stage (w : Workspace) (a : Action) : Stage :=
  ⟨(w.perform a).2, (w.perform a).1.published.drop w.published.length, (w.perform a).1⟩

def stages (w : Workspace) : List Action → List Stage
  | [] => []
  | a :: as => w.stage a :: stages (w.perform a).1 as

/-- The workspace at the end of a timed run. -/
def performAll (w : Workspace) (as : List Action) : Workspace :=
  as.foldl (fun w a => (w.perform a).1) w

@[simp] theorem performAll_snoc (w : Workspace) (as : List Action) (a : Action) :
    w.performAll (as ++ [a]) = ((w.performAll as).perform a).1 := by
  simp [performAll]

theorem stage_published {w : Workspace} (h : w.Rested) (a : Action) :
    (w.stage a).published = w.emitted a := by
  simp only [stage, perform_published h, List.drop_left]

theorem length_stages (w : Workspace) (as : List Action) : (w.stages as).length = as.length := by
  induction as generalizing w with
  | nil => rfl
  | cons a as ih => simp [stages, ih]

theorem stages_snoc (w : Workspace) (as : List Action) (a : Action) :
    w.stages (as ++ [a]) = w.stages as ++ [(w.performAll as).stage a] := by
  induction as generalizing w with
  | nil => rfl
  | cons b as ih => simp [stages, ih, performAll]

theorem start_rested (d : Nat) : (start d).Rested := ⟨rfl, rfl⟩

/-- The workspace after a timed run from the start. -/
def after (d : Nat) (as : List Action) : Workspace := (start d).performAll as

theorem after_rested (d : Nat) (as : List Action) : (after d as).Rested := by
  cases as using List.reverseRecOn with
  | nil => exact start_rested d
  | append_singleton as a =>
    rw [after, performAll_snoc]
    exact perform_rested _ a

/-- What is published in a timed run from the start, each with the number of its step. -/
def timeline (d : Nat) (as : List Action) : List (Nat × Publication) :=
  ((start d).stages as).zipIdx.flatMap fun s => s.1.published.map (s.2, ·)

theorem timeline_snoc (d : Nat) (as : List Action) (a : Action) :
    timeline d (as ++ [a]) =
      timeline d as ++ ((after d as).emitted a).map (as.length, ·) := by
  rw [timeline, stages_snoc, List.zipIdx_append, List.flatMap_append, ← timeline, length_stages,
    ← after]
  simp [stage_published (after_rested d as)]

/-- Nothing is published outside the steps. -/
theorem published_eq_timeline (d : Nat) (as : List Action) :
    (after d as).published = (timeline d as).map (·.2) := by
  induction as using List.reverseRecOn with
  | nil => rfl
  | append_singleton as a ih =>
    rw [timeline_snoc, List.map_append, ← ih, after, performAll_snoc, ← after,
      perform_published (after_rested d as)]
    simp [Function.comp_def]

end AppConfig.Editor.Workspace
