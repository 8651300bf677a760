import AppConfig.Proofs.Editor.Run

/-!
# AppConfig.Proofs.Editor.Forecast

What the worker will have published once it has gone through its queue, if the documents stay as
they are: `forecast`. The worker's own steps do not change it (`WorkerStep.forecast_eq`), so what a
workspace comes to publish can be told without following the worker.

What is forecast for one document depends on the stored version of that document alone
(`forecastFor_append`).
-/

namespace AppConfig.Editor.Workspace

/-- What is published for a request. -/
def answer? (s : Store) : Request → Option Publication
  | .validate uri version => ((s.get? uri).filter (·.version == version)).map (.ofDocument uri)
  | .clear uri => some (.cleared uri)

/-- What the worker still publishes for the request that it is at. -/
def outcome? (s : Store) : Worker → Option Publication
  | .idle => none
  | .received r => answer? s r
  | .confirmed uri => (s.get? uri).map (.ofDocument uri)
  | .holding uri d => some (.ofDocument uri d)

/-- All publications, those of the requests that wait included. -/
def forecast (w : Workspace) : List Publication :=
  w.published ++ (outcome? w.documents.store w.worker).toList ++
    w.documents.queue.filterMap (answer? w.documents.store)

theorem answer?_of_isCurrent {d : Documents} {uri : Uri} {version : Int}
    (h : d.isCurrent uri version = true) :
    answer? d.store (.validate uri version) = (d.store.get? uri).map (.ofDocument uri) := by
  simp only [Documents.isCurrent, Documents.get?] at h
  cases hg : d.store.get? uri with
  | none => simp [answer?, hg]
  | some doc =>
    rw [hg, Option.any_some] at h
    simp [answer?, hg, Option.filter, h]

theorem answer?_of_not_isCurrent {d : Documents} {uri : Uri} {version : Int}
    (h : d.isCurrent uri version = false) : answer? d.store (.validate uri version) = none := by
  simp only [Documents.isCurrent, Documents.get?] at h
  cases hg : d.store.get? uri with
  | none => simp [answer?, hg]
  | some doc =>
    rw [hg, Option.any_some] at h
    simp [answer?, hg, Option.filter, h]

/-- The worker does what is forecast. -/
theorem WorkerStep.forecast_eq {w w' : Workspace} (h : WorkerStep w w') :
    w'.forecast = w.forecast := by
  cases h with
  | @receive r rest hw hq =>
    cases ha : answer? w.documents.store r with
    | none => simp [forecast, outcome?, hw, hq, ha]
    | some p => simp [forecast, outcome?, hw, hq, ha]
  | confirm hw hc => simp [forecast, outcome?, hw, answer?_of_isCurrent hc]
  | skip hw hc => simp [forecast, outcome?, hw, answer?_of_not_isCurrent hc]
  | clear hw => simp [forecast, outcome?, hw, answer?]
  | snapshot hw hg =>
    rw [Documents.get?] at hg
    simp [forecast, outcome?, hw, hg]
  | miss hw hg =>
    rw [Documents.get?] at hg
    simp [forecast, outcome?, hw, hg]
  | publish hw => simp [forecast, outcome?, hw]

/-! ## The forecast for one document -/

/-- The publications for one document. -/
def publishedFor (uri : Uri) (ps : List Publication) : List Publication :=
  ps.filter (·.uri == uri)

def forecastFor (w : Workspace) (uri : Uri) : List Publication := publishedFor uri w.forecast

@[simp] theorem publishedFor_append (uri : Uri) (ps qs : List Publication) :
    publishedFor uri (ps ++ qs) = publishedFor uri ps ++ publishedFor uri qs :=
  List.filter_append ps qs

theorem filter_ofDocument_of_ne {uri other : Uri} (h : other ≠ uri) (d : Option Document) :
    (d.map (Publication.ofDocument other)).filter (·.uri == uri) = none := by
  cases d with
  | none => rfl
  | some d => simp [Publication.ofDocument, h]

theorem filter_answer?_congr {s s' : Store} {uri : Uri} (h : s.get? uri = s'.get? uri)
    (r : Request) : (answer? s r).filter (·.uri == uri) = (answer? s' r).filter (·.uri == uri) := by
  cases r with
  | validate other version =>
    by_cases ho : other = uri
    · subst ho
      simp only [answer?, h]
    · simp only [answer?, filter_ofDocument_of_ne ho]
  | clear other => rfl

theorem filter_outcome?_congr {s s' : Store} {uri : Uri} (h : s.get? uri = s'.get? uri)
    (k : Worker) : (outcome? s k).filter (·.uri == uri) = (outcome? s' k).filter (·.uri == uri) := by
  cases k with
  | idle => rfl
  | received r => exact filter_answer?_congr h r
  | confirmed other =>
    by_cases ho : other = uri
    · subst ho
      simp only [outcome?, h]
    · simp only [outcome?, filter_ofDocument_of_ne ho]
  | holding other d => rfl

/-- Requests that join the queue add their answers, as long as the document itself is left alone. -/
theorem forecastFor_append {w w' : Workspace} {uri : Uri} {rs : List Request}
    (hp : w'.published = w.published) (hw : w'.worker = w.worker)
    (hq : w'.documents.queue = w.documents.queue ++ rs)
    (hs : w'.documents.store.get? uri = w.documents.store.get? uri) :
    w'.forecastFor uri =
      w.forecastFor uri ++ publishedFor uri (rs.filterMap (answer? w'.documents.store)) := by
  have ho := congrArg Option.toList (filter_outcome?_congr hs w.worker)
  have ha : (fun r => (answer? w'.documents.store r).filter (·.uri == uri)) =
      fun r => (answer? w.documents.store r).filter (·.uri == uri) :=
    funext (filter_answer?_congr hs)
  simp only [Option.toList_filter] at ho
  simp only [forecastFor, forecast, publishedFor, hp, hw, hq, List.filterMap_append,
    List.filter_append, List.filter_filterMap, ha, ho, List.append_assoc]

end AppConfig.Editor.Workspace
