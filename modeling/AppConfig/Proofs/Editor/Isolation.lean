import AppConfig.Proofs.Editor.Timeline
import Mathlib.Data.List.Basic

/-!
# AppConfig.Proofs.Editor.Isolation

Documents do not disturb each other. All of them share one store, one set of timers, one queue and
one worker; still, whoever looks at one document only cannot tell whether anything was done to the
others.

* `Action.only uri a` — nothing in place of an action on another document than `uri`.
* `Agree uri w w'` — two workspaces hold the same for `uri`: its document and its timers, in order.
  Actions that are alike for `uri` keep it so (`Agree.perform`), and publish the same for `uri`
  (`Agree.emitted`).
-/

namespace AppConfig.Editor.Workspace

namespace Action

/-- The document that an action is addressed to. -/
def target? : Action → Option Uri
  | .update uri _ _ => some uri
  | .change uri _ _ => some uri
  | .close uri => some uri
  | .hover uri _ => some uri
  | .completion uri _ => some uri
  | .advance _ => none
  | .nothing => none

def only (uri : Uri) (a : Action) : Action := if a.target?.all (· == uri) then a else .nothing

/-- Two actions take equally long and do the same to the document `uri`. -/
structure Alike (uri : Uri) (a b : Action) : Prop where
  duration : a.duration = b.duration
  edit : a.edit?.filter (·.1 == uri) = b.edit?.filter (·.1 == uri)
  close : a.close?.filter (· == uri) = b.close?.filter (· == uri)

theorem alike_only (uri : Uri) (a : Action) : Alike uri a (a.only uri) := by
  unfold only
  split
  · exact ⟨rfl, rfl, rfl⟩
  · rename_i ht
    cases a with
    | update other version content =>
      have hne : other ≠ uri := by simpa [target?] using ht
      exact ⟨rfl, by simp [edit?, hne], rfl⟩
    | change other version texts =>
      have hne : other ≠ uri := by simpa [target?] using ht
      refine ⟨rfl, ?_, rfl⟩
      cases hl : texts.getLast? with
      | none => simp [edit?, hl]
      | some content => simp [edit?, hl, hne]
    | close other =>
      have hne : other ≠ uri := by simpa [target?] using ht
      exact ⟨rfl, rfl, by simp [close?, hne]⟩
    | hover other line => exact ⟨rfl, rfl, rfl⟩
    | completion other line => exact ⟨rfl, rfl, rfl⟩
    | advance ms => simp [target?] at ht
    | nothing => exact ⟨rfl, rfl, rfl⟩

theorem close?_of_edit? {a : Action} {e : Uri × Document} (h : a.edit? = some e) :
    a.close? = none := by
  cases a with
  | close uri => simp [edit?] at h
  | _ => rfl

/-- What an action makes of a document depends on what it does to that document alone. -/
theorem get?_applyTo_filter (a : Action) (s : Store) (uri : Uri) :
    (a.applyTo s).get? uri =
      match a.edit?.filter (·.1 == uri), a.close?.filter (· == uri) with
      | some e, _ => some e.2
      | none, some _ => none
      | none, none => s.get? uri := by
  rw [get?_applyTo]
  cases he : a.edit? with
  | some e =>
    by_cases hu : e.1 = uri <;> simp [subject?, he, close?_of_edit? he, Option.filter, hu]
  | none =>
    cases hc : a.close? with
    | some other => by_cases hu : other = uri <;> simp [subject?, he, hc, Option.filter, hu]
    | none => simp [subject?, he, hc]

end Action

/-! ## What is published for one document -/

theorem toList_filter_map {α β : Type} (o : Option α) (f : α → β) (p : α → Bool) (q : β → Bool)
    (h : ∀ x, q (f x) = p x) : (o.map f).toList.filter q = ((o.filter p).map f).toList := by
  cases o with
  | none => rfl
  | some x => cases hp : p x <;> simp [h, hp, Option.filter]

theorem uri_of_answer? {s : Store} {t : Timer} {p : Publication}
    (h : answer? s t.request = some p) : p.uri = t.uri := by
  rw [answer?_request h, truth_uri]

/-- The answers for one document are those to its own timers. -/
theorem publishedFor_filterMap (s : Store) (uri : Uri) (ts : List Timer) :
    publishedFor uri (ts.filterMap fun t => answer? s t.request) =
      (ts.filter (·.uri == uri)).filterMap fun t => answer? s t.request := by
  induction ts with
  | nil => rfl
  | cons t ts ih =>
    rw [publishedFor] at ih
    cases ha : answer? s t.request with
    | none => by_cases hu : t.uri = uri <;> simp [publishedFor, ha, hu, ih]
    | some p =>
      have hp := uri_of_answer? ha
      by_cases hu : t.uri = uri <;> simp [publishedFor, ha, hp, hu, ih]

theorem answer?_request_congr {s s' : Store} {t : Timer} (h : s.get? t.uri = s'.get? t.uri) :
    answer? s t.request = answer? s' t.request := by
  simp only [Timer.request, answer?, h]

/-! ## The simulation -/

structure Agree (uri : Uri) (w w' : Workspace) : Prop where
  debounce : w.documents.debounce = w'.documents.debounce
  clock : w.documents.clock = w'.documents.clock
  stored : w.documents.get? uri = w'.documents.get? uri
  timers : w.documents.timers.filter (·.uri == uri) = w'.documents.timers.filter (·.uri == uri)

namespace Agree

variable {uri : Uri} {w w' : Workspace} {a b : Action}

theorem refl (uri : Uri) (w : Workspace) : Agree uri w w := ⟨rfl, rfl, rfl, rfl⟩

/-- Both have the same timers for the document, the one that the action starts included. -/
theorem started (h : Agree uri w w') (hab : a.Alike uri b) :
    (w.documents.timers ++ (a.timer? w.documents).toList).filter (·.uri == uri) =
      (w'.documents.timers ++ (b.timer? w'.documents).toList).filter (·.uri == uri) := by
  rw [List.filter_append, List.filter_append, h.timers, Action.timer?, Action.timer?,
    toList_filter_map _ _ (·.1 == uri) _ (fun _ => rfl),
    toList_filter_map _ _ (·.1 == uri) _ (fun _ => rfl), hab.edit, h.clock, h.debounce]

theorem applied (h : Agree uri w w') (hab : a.Alike uri b) :
    (a.applyTo w.documents.store).get? uri = (b.applyTo w'.documents.store).get? uri := by
  have hs : w.documents.store.get? uri = w'.documents.store.get? uri := h.stored
  rw [Action.get?_applyTo_filter, Action.get?_applyTo_filter, hab.edit, hab.close, hs]

theorem perform (h : Agree uri w w') (hab : a.Alike uri b) :
    Agree uri (w.perform a).1 (w'.perform b).1 := by
  have hd := perform_documents w a
  have hd' := perform_documents w' b
  refine ⟨?_, ?_, ?_, ?_⟩
  · simp only [hd, hd', h.debounce]
  · simp only [hd, hd', h.clock, hab.duration]
  · simp only [Documents.get?, hd, hd', h.applied hab]
  · simp only [hd, hd']
    -- the timers of the document first, then those among them that still run
    rw [List.filter_comm, h.started hab, List.filter_comm, h.clock, hab.duration]

theorem emitted (h : Agree uri w w') (hab : a.Alike uri b) :
    publishedFor uri (w.emitted a) = publishedFor uri (w'.emitted b) := by
  have hc : publishedFor uri (a.close?.map Publication.cleared).toList =
      publishedFor uri (b.close?.map Publication.cleared).toList := by
    rw [publishedFor, publishedFor, toList_filter_map _ _ (· == uri) _ (fun _ => rfl),
      toList_filter_map _ _ (· == uri) _ (fun _ => rfl), hab.close]
  simp only [Workspace.emitted, publishedFor_append, publishedFor_filterMap, hc]
  congr 1
  rw [List.filter_comm, h.started hab, List.filter_comm, h.clock, hab.duration]
  refine List.filterMap_congr ?_
  intro t ht
  have hu : t.uri = uri := by simpa using (List.mem_filter.mp ht).2
  exact answer?_request_congr (by rw [hu, h.applied hab])

/-- Questions about the document get the same answer. -/
theorem answer (h : Agree uri w w') (ha : a.target? = some uri) :
    (w.perform a).2 = (w'.perform a).2 := by
  cases a with
  | hover other line =>
    obtain rfl : other = uri := by simpa [Action.target?] using ha
    simp only [Workspace.perform, act, Documents.hover, h.stored]
  | completion other line =>
    obtain rfl : other = uri := by simpa [Action.target?] using ha
    simp only [Workspace.perform, act, Documents.completion, h.stored]
  | _ => rfl

end Agree

/-! ## Two runs -/

theorem agree_after (d : Nat) (uri : Uri) (as : List Action) :
    Agree uri (after d as) (after d (as.map (·.only uri))) := by
  induction as using List.reverseRecOn with
  | nil => exact .refl uri _
  | append_singleton as a ih =>
    rw [List.map_append, List.map_singleton, after, after, performAll_snoc, performAll_snoc,
      ← after, ← after]
    exact ih.perform (Action.alike_only uri a)

theorem filter_map_pair (uri : Uri) (n : Nat) (ps : List Publication) :
    (ps.map (n, ·)).filter (·.2.uri == uri) = (publishedFor uri ps).map (n, ·) := by
  rw [publishedFor, List.filter_map]
  rfl

theorem filter_timeline (d : Nat) (uri : Uri) (as : List Action) :
    (timeline d as).filter (·.2.uri == uri) =
      (timeline d (as.map (·.only uri))).filter (·.2.uri == uri) := by
  induction as using List.reverseRecOn with
  | nil => rfl
  | append_singleton as a ih =>
    rw [List.map_append, List.map_singleton, timeline_snoc, timeline_snoc, List.filter_append,
      List.filter_append, ih, filter_map_pair, filter_map_pair, List.length_map,
      (agree_after d uri as).emitted (Action.alike_only uri a)]

/-- The answers of a timed run, one for each step. -/
def answers (d : Nat) (as : List Action) : List Answer := ((start d).stages as).map (·.answer)

theorem getElem?_stages (w : Workspace) (as : List Action) (i : Nat) :
    (w.stages as)[i]? = as[i]?.map (w.performAll (as.take i)).stage := by
  induction as generalizing w i with
  | nil => rfl
  | cons a as ih =>
    cases i with
    | zero => rfl
    | succ i => simp [stages, ih, performAll]

theorem getElem?_answers (d : Nat) (as : List Action) (i : Nat) :
    (answers d as)[i]? = as[i]?.map fun a => ((after d (as.take i)).perform a).2 := by
  simp only [answers, List.getElem?_map, getElem?_stages, Option.map_map, after]
  rfl

/-- **Documents are isolated from each other.** With every action on another document left out of a
run, nothing changes for this one: what is published for it, and in which step; what is stored for
it after each number of steps; what is answered about it. -/
theorem documents_isolated (d : Nat) (uri : Uri) (as : List Action) :
    (timeline d as).filter (·.2.uri == uri) =
      (timeline d (as.map (·.only uri))).filter (·.2.uri == uri) ∧
    (∀ n, (after d (as.take n)).documents.get? uri =
      (after d ((as.map (·.only uri)).take n)).documents.get? uri) ∧
    ∀ (i : Nat) (a : Action), as[i]? = some a → a.target? = some uri →
      (answers d as)[i]? = (answers d (as.map (·.only uri)))[i]? := by
  refine ⟨filter_timeline d uri as, ?_, ?_⟩
  · intro n
    rw [← List.map_take]
    exact (agree_after d uri (as.take n)).stored
  · intro i a hi ha
    have honly : a.only uri = a := by simp [Action.only, ha]
    rw [getElem?_answers, getElem?_answers, List.getElem?_map, hi, ← List.map_take,
      Option.map_some, Option.map_some, Option.map_some, honly]
    exact congrArg some ((agree_after d uri (as.take i)).answer ha)

end AppConfig.Editor.Workspace
