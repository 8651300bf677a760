import AppConfig.Proofs.Editor.Run

/-!
# AppConfig.Proofs.Editor.Delivery

No request is lost, doubled or moved ahead on its way from the client to the worker.

* `Delivery S w es rs w'` — a run by steps of `S`, with the requests `rs` that the worker receives.
* `Delivery.queue_eq` — the queue hands out what joins it, in that order.
* `Delivery.count_timers` — every edit starts one timer, and every timer that runs out puts one
  request on the queue.
* `InTurn` — steps in which timers run out in their turn. One delay holds for all, so this is the
  order in which they were started (`Delivery.started_eq`).
-/

namespace AppConfig.Editor.Workspace

/-- The request that the worker receives in a step. -/
def received? (w : Workspace) : Event → Option Request
  | .worked => if w.worker = .idle then w.documents.queue.head? else none
  | _ => none

inductive Delivery (S : Workspace → Event → Workspace → Prop) :
    Workspace → List Event → List Request → Workspace → Prop where
  | refl (w : Workspace) : Delivery S w [] [] w
  | snoc {w w' w'' : Workspace} {es : List Event} {rs : List Request} {e : Event} :
      Delivery S w es rs w' → S w' e w'' →
      Delivery S w (es ++ [e]) (rs ++ (w'.received? e).toList) w''

theorem Delivery.run {w w' : Workspace} {es : List Event} {rs : List Request}
    (h : Delivery Step w es rs w') : Run w es w' := by
  induction h with
  | refl => exact .refl _
  | snoc _ hs ih => exact ih.snoc hs

theorem Run.delivery {w w' : Workspace} {es : List Event} (h : Run w es w') :
    ∃ rs, Delivery Step w es rs w' := by
  induction h with
  | refl => exact ⟨[], .refl _⟩
  | snoc _ hs ih =>
    obtain ⟨rs, hd⟩ := ih
    exact ⟨_, hd.snoc hs⟩

namespace Delivery

variable {S S' : Workspace → Event → Workspace → Prop} {w w' : Workspace} {es : List Event}
  {rs : List Request}

theorem mono (hS : ∀ {w e w'}, S w e w' → S' w e w') (h : Delivery S w es rs w') :
    Delivery S' w es rs w' := by
  induction h with
  | refl => exact .refl _
  | snoc _ hs ih => exact ih.snoc (hS hs)

theorem snoc_inv {e : Event} (h : Delivery S w (es ++ [e]) rs w') :
    ∃ rs₁ w₁, Delivery S w es rs₁ w₁ ∧ S w₁ e w' ∧ rs = rs₁ ++ (w₁.received? e).toList := by
  generalize hes : es ++ [e] = es' at h
  cases h with
  | refl => simp at hes
  | snoc hd hs =>
    obtain ⟨rfl, he⟩ := List.append_inj' hes rfl
    obtain rfl := List.singleton_inj.mp he
    exact ⟨_, _, hd, hs, rfl⟩

/-- A run can be taken apart anywhere. -/
theorem split {es' : List Event} (h : Delivery S w (es ++ es') rs w') :
    ∃ rs₁ rs₂ w₁, rs = rs₁ ++ rs₂ ∧ Delivery S w es rs₁ w₁ ∧ Delivery S w₁ es' rs₂ w' := by
  induction es' using List.reverseRecOn generalizing rs w' with
  | nil => exact ⟨rs, [], w', by simp, by simpa using h, .refl w'⟩
  | append_singleton es' e ih =>
    rw [← List.append_assoc] at h
    obtain ⟨rs', w₂, hd, hs, rfl⟩ := h.snoc_inv
    obtain ⟨rs₁, rs₂, w₁, rfl, hd₁, hd₂⟩ := ih hd
    exact ⟨rs₁, _, w₁, by simp, hd₁, hd₂.snoc hs⟩

end Delivery

/-! ## The queue -/

/-- The request that joins the queue in a step. -/
def Event.joins? : Event → Option Request
  | .closed uri => some (.clear uri)
  | .fired t => some t.request
  | _ => none

theorem WorkerStep.received?_append {w w' : Workspace} (h : WorkerStep w w') :
    (w.received? .worked).toList ++ w'.documents.queue = w.documents.queue := by
  cases h with
  | receive hw hq => simp [received?, hw, hq]
  | confirm hw _ => simp [received?, hw]
  | skip hw _ => simp [received?, hw]
  | clear hw => simp [received?, hw]
  | snapshot hw _ => simp [received?, hw]
  | miss hw _ => simp [received?, hw]
  | publish hw => simp [received?, hw]

theorem Step.received?_append {w w' : Workspace} {e : Event} (h : Step w e w') :
    (w.received? e).toList ++ w'.documents.queue = w.documents.queue ++ e.joins?.toList := by
  cases h with
  | update uri version content => simp [received?, Event.joins?, Workspace.update, Documents.update]
  | close uri => simp [received?, Event.joins?, Workspace.close, Documents.close]
  | fire before t behind _ => simp [received?, Event.joins?, Workspace.fire]
  | pass ms => simp [received?, Event.joins?, advance, Documents.advance]
  | work hw => simpa [Event.joins?] using (work_step hw).received?_append

theorem filterMap_snoc (f : Event → Option Request) (es : List Event) (e : Event) :
    (es ++ [e]).filterMap f = es.filterMap f ++ (f e).toList := by
  rw [List.filterMap_append]
  cases hf : f e <;> simp [hf]

theorem Delivery.queue_eq {w w' : Workspace} {es : List Event} {rs : List Request}
    (h : Delivery Step w es rs w') :
    rs ++ w'.documents.queue = w.documents.queue ++ es.filterMap Event.joins? := by
  induction h with
  | refl => simp
  | @snoc w' w'' es rs e _ hs ih =>
    calc rs ++ (w'.received? e).toList ++ w''.documents.queue
        = rs ++ w'.documents.queue ++ e.joins?.toList := by
          rw [List.append_assoc, hs.received?_append, List.append_assoc]
      _ = w.documents.queue ++ (es ++ [e]).filterMap Event.joins? := by
          rw [ih, filterMap_snoc, List.append_assoc]

/-! ## The timers -/

/-- The request that an edit starts a timer for. -/
def Event.starts? : Event → Option Request
  | .updated uri version _ => some (.validate uri version)
  | _ => none

/-- The request of a timer that runs out. -/
def Event.fires? : Event → Option Request
  | .fired t => some t.request
  | _ => none

/-- The requests that wait for their time. -/
def delayed (w : Workspace) : List Request := w.documents.timers.map Timer.request

theorem Step.delayed_eq {w w' : Workspace} {e : Event} (h : Step w e w') (he : e.fires? = none) :
    w'.delayed = w.delayed ++ e.starts?.toList := by
  cases h with
  | update uri version content =>
    simp [delayed, Event.starts?, Workspace.update, Documents.update, Timer.request]
  | close uri => simp [delayed, Event.starts?, Workspace.close, Documents.close]
  | fire before t behind _ => simp [Event.fires?] at he
  | pass ms => simp [delayed, Event.starts?, advance, Documents.advance]
  | work hw => simp [delayed, Event.starts?, (work_step hw).timers_eq]

theorem Step.count_timers {w w' : Workspace} {e : Event} (h : Step w e w') (r : Request) :
    w.delayed.count r + e.starts?.toList.count r =
      e.fires?.toList.count r + w'.delayed.count r := by
  by_cases he : e.fires? = none
  · rw [h.delayed_eq he, he, List.count_append, Option.toList_none, List.count_nil, Nat.zero_add]
  · cases h with
    | fire before t behind ht =>
      -- whichever timer runs out, its request leaves the delayed ones
      simp only [delayed, Event.starts?, Event.fires?, Workspace.fire, ht, List.map_append,
        List.map_cons, List.count_append, List.count_cons, Option.toList_none, Option.toList_some,
        List.count_nil]
      omega
    | _ => exact absurd rfl he

theorem Delivery.count_timers {w w' : Workspace} {es : List Event} {rs : List Request}
    (h : Delivery Step w es rs w') (r : Request) :
    w.delayed.count r + (es.filterMap Event.starts?).count r =
      (es.filterMap Event.fires?).count r + w'.delayed.count r := by
  induction h with
  | refl => simp
  | snoc _ hs ih =>
    have := hs.count_timers r
    rw [filterMap_snoc, filterMap_snoc, List.count_append, List.count_append]
    omega

/-! ## Timers in their turn -/

/-- A step in which only that timer may run out which is due first, and of those due together the
one that was started first. -/
inductive InTurn : Workspace → Event → Workspace → Prop where
  | fire (w : Workspace) (before : List Timer) (t : Timer) (behind : List Timer) :
      w.documents.timers = before ++ t :: behind → (∀ t' ∈ before, t.due < t'.due) →
      (∀ t' ∈ behind, t.due ≤ t'.due) → InTurn w (.fired t) (w.fire before t behind)
  | other {w w' : Workspace} {e : Event} : Step w e w' → e.fires? = none → InTurn w e w'

theorem InTurn.step {w w' : Workspace} {e : Event} (h : InTurn w e w') : Step w e w' := by
  cases h with
  | fire before t behind ht _ _ => exact .fire w before t behind ht
  | other hs _ => exact hs

/-- Timers stand in the order in which they run out. -/
structure Lined (d : Documents) : Prop where
  sorted : d.timers.Pairwise (·.due ≤ ·.due)
  bounded : ∀ t ∈ d.timers, t.due ≤ d.clock + d.debounce

theorem Step.lined {w w' : Workspace} {e : Event} (h : Step w e w') (hl : Lined w.documents) :
    Lined w'.documents := by
  obtain ⟨hsorted, hbounded⟩ := hl
  cases h with
  | update uri version content =>
    refine ⟨List.pairwise_append.mpr ⟨hsorted, List.pairwise_singleton _ _, ?_⟩, ?_⟩
    · intro t ht t' ht'
      rw [List.mem_singleton.mp ht']
      exact hbounded t ht
    · intro t ht
      rcases List.mem_append.mp ht with ht | ht
      · exact hbounded t ht
      · rw [List.mem_singleton.mp ht]
        exact Nat.le_refl _
  | close uri => exact ⟨hsorted, hbounded⟩
  | fire before t behind ht =>
    have hsub : List.Sublist (before ++ behind) w.documents.timers := by
      rw [ht]
      exact (List.sublist_cons_self t behind).append_left before
    exact ⟨hsorted.sublist hsub, fun t' ht' => hbounded t' (hsub.subset ht')⟩
  | pass ms =>
    refine ⟨hsorted, ?_⟩
    intro t ht
    have := hbounded t ht
    simp only [advance, Documents.advance]
    omega
  | work hw =>
    rw [(work_step hw).documents_eq]
    exact ⟨hsorted, hbounded⟩

/-- The timer whose turn it is stands first. -/
theorem InTurn.delayed_eq {w w' : Workspace} {e : Event} (h : InTurn w e w')
    (hl : Lined w.documents) :
    w.delayed ++ e.starts?.toList = e.fires?.toList ++ w'.delayed := by
  cases h with
  | fire before t behind ht hbefore _ =>
    have hnil : before = [] := by
      refine List.eq_nil_iff_forall_not_mem.mpr ?_
      intro t' ht'
      have hsorted := hl.sorted
      rw [ht, List.pairwise_append] at hsorted
      have hle := hsorted.2.2 t' ht' t (by simp)
      have hlt := hbefore t' ht'
      omega
    subst hnil
    simp [delayed, ht, Workspace.fire, Event.starts?, Event.fires?]
  | other hs he => rw [hs.delayed_eq he, he, Option.toList_none, List.nil_append]

theorem Delivery.lined {w w' : Workspace} {es : List Event} {rs : List Request}
    (h : Delivery Step w es rs w') (hl : Lined w.documents) : Lined w'.documents := by
  induction h with
  | refl => exact hl
  | snoc _ hs ih => exact hs.lined ih

theorem Delivery.started_eq {w w' : Workspace} {es : List Event} {rs : List Request}
    (h : Delivery InTurn w es rs w') (hl : Lined w.documents) :
    w.delayed ++ es.filterMap Event.starts? = es.filterMap Event.fires? ++ w'.delayed := by
  induction h with
  | refl => simp
  | @snoc w' w'' es rs e hd hs ih =>
    have hl' : Lined w'.documents := (hd.mono InTurn.step).lined hl
    calc w.delayed ++ (es ++ [e]).filterMap Event.starts?
        = es.filterMap Event.fires? ++ (w'.delayed ++ e.starts?.toList) := by
          rw [filterMap_snoc, ← List.append_assoc, ih, List.append_assoc]
      _ = (es ++ [e]).filterMap Event.fires? ++ w''.delayed := by
          rw [hs.delayed_eq hl', filterMap_snoc, List.append_assoc]

/-! ## From the client to the worker -/

def Request.isValidate : Request → Bool
  | .validate _ _ => true
  | .clear _ => false

/-- An event gives a version to a document. -/
def Event.isUpdate (uri : Uri) (version : Int) : Event → Bool
  | .updated other v _ => other == uri && v == version
  | _ => false

theorem validate_beq (uri uri' : Uri) (version version' : Int) :
    (Request.validate uri version == .validate uri' version') =
      (uri == uri' && version == version') := by
  rw [Bool.eq_iff_iff]
  simp

theorem filter_joins? (es : List Event) :
    (es.filterMap Event.joins?).filter Request.isValidate = es.filterMap Event.fires? := by
  rw [List.filter_filterMap]
  congr 1
  funext e
  cases e <;> rfl

theorem count_starts? (es : List Event) (uri : Uri) (version : Int) :
    (es.filterMap Event.starts?).count (.validate uri version) =
      es.countP (Event.isUpdate uri version) := by
  rw [List.count, List.countP_filterMap]
  congr 1
  funext e
  cases e <;> simp [Event.starts?, Event.isUpdate, validate_beq]

theorem count_joins?_clear (es : List Event) (uri : Uri) :
    (es.filterMap Event.joins?).count (.clear uri) = es.count (.closed uri) := by
  rw [List.count, List.countP_filterMap, List.count]
  congr 1
  funext e
  cases e <;> simp [Event.joins?, Timer.request]

theorem count_delayed (w : Workspace) (uri : Uri) (version : Int) :
    w.delayed.count (.validate uri version) =
      w.documents.timers.countP fun t => t.uri == uri && t.version == version := by
  rw [delayed, List.count, List.countP_map]
  congr 1
  funext t
  exact validate_beq t.uri uri t.version version

theorem count_validate_joins? (es : List Event) (uri : Uri) (version : Int) :
    (es.filterMap Event.joins?).count (.validate uri version) =
      (es.filterMap Event.fires?).count (.validate uri version) := by
  rw [← filter_joins?, List.count_filter rfl]

theorem start_lined (d : Nat) : Lined (start d).documents :=
  ⟨List.Pairwise.nil, by simp [start, Documents.start]⟩

/-- **No request is lost, doubled or moved ahead.** However the steps of a run are mixed, each edit
is found once: as a timer, in the queue or with the worker; and each close in the queue or with the
worker. After a close the worker first receives what was in the queue, and then the clear. If timers
run out in their turn, requests to validate are received, waiting and delayed in the order of the
edits, whatever the documents. -/
theorem requests_delivered {d : Nat} {es : List Event} {w : Workspace} (h : Run (start d) es w) :
    (∃ rs, Delivery Step (start d) es rs w) ∧
    ∀ rs, Delivery Step (start d) es rs w →
      (∀ uri version, es.countP (Event.isUpdate uri version) =
        w.documents.timers.countP (fun t => t.uri == uri && t.version == version) +
          w.documents.queue.count (.validate uri version) + rs.count (.validate uri version)) ∧
      (∀ uri, es.count (.closed uri) =
        w.documents.queue.count (.clear uri) + rs.count (.clear uri)) ∧
      (∀ past uri future, es = past ++ .closed uri :: future →
        ∃ rs₁ rs₂ w₁ later, rs = rs₁ ++ rs₂ ∧ Delivery Step (start d) past rs₁ w₁ ∧
          Delivery Step (w₁.close uri) future rs₂ w ∧
          rs₂ ++ w.documents.queue = w₁.documents.queue ++ .clear uri :: later) ∧
      (Delivery InTurn (start d) es rs w →
        rs.filter Request.isValidate ++ w.documents.queue.filter Request.isValidate ++
          w.documents.timers.map Timer.request = es.filterMap Event.starts?) := by
  refine ⟨h.delivery, ?_⟩
  intro rs hd
  have hqueue : rs ++ w.documents.queue = es.filterMap Event.joins? := hd.queue_eq
  refine ⟨?_, ?_, ?_, ?_⟩
  · intro uri version
    have hc := congrArg (List.count (.validate uri version)) hqueue
    have ht := hd.count_timers (.validate uri version)
    have h₀ : (start d).delayed = [] := rfl
    rw [List.count_append, count_validate_joins?] at hc
    rw [h₀, List.count_nil, count_starts?, count_delayed] at ht
    omega
  · intro uri
    have hc := congrArg (List.count (.clear uri)) hqueue
    rw [List.count_append, count_joins?_clear] at hc
    omega
  · intro past uri future hes
    rw [hes, List.append_cons] at hd
    obtain ⟨rs', rs₂, w₂, rfl, hd', hd₂⟩ := hd.split
    obtain ⟨rs₁, w₁, hd₁, hs, rfl⟩ := hd'.snoc_inv
    cases hs with
    | close =>
      refine ⟨rs₁, rs₂, w₁, future.filterMap Event.joins?, by simp [received?], hd₁, hd₂, ?_⟩
      rw [hd₂.queue_eq]
      simp [close, Documents.close]
  · intro hturn
    rw [← List.filter_append, hqueue, filter_joins?]
    exact (hturn.started_eq (start_lined d)).symm

/-- A version is given twice, and a document is closed while its request is still delayed: its clear
stands before that request, and behind the one that was in the queue. -/
theorem requests_delivered_mixed :
    ∃ es rs w, es = [.updated "a.yaml" 1 "a: 1".toList, .updated "b.yaml" 1 "b: 1".toList,
        .updated "a.yaml" 1 "a: 2".toList, .fired ⟨0, "a.yaml", 1⟩, .closed "b.yaml", .worked,
        .fired ⟨0, "b.yaml", 1⟩] ∧
      Delivery InTurn (start 0) es rs w ∧ rs = [.validate "a.yaml" 1] ∧
      w.documents.queue = [.clear "b.yaml", .validate "b.yaml" 1] ∧
      w.documents.timers = [⟨0, "a.yaml", 1⟩] ∧
      es.countP (Event.isUpdate "a.yaml" 1) =
        w.documents.timers.countP (fun t => t.uri == "a.yaml" && t.version == 1) +
          w.documents.queue.count (.validate "a.yaml" 1) + rs.count (.validate "a.yaml" 1) ∧
      rs.filter Request.isValidate ++ w.documents.queue.filter Request.isValidate ++
        w.documents.timers.map Timer.request = es.filterMap Event.starts? := by
  have hd : Delivery InTurn (start 0) [.updated "a.yaml" 1 "a: 1".toList,
      .updated "b.yaml" 1 "b: 1".toList, .updated "a.yaml" 1 "a: 2".toList,
      .fired ⟨0, "a.yaml", 1⟩, .closed "b.yaml", .worked, .fired ⟨0, "b.yaml", 1⟩] _ _ :=
    (Delivery.refl (start 0)).snoc (.other (.update _ _ _ _) rfl)
      |>.snoc (.other (.update _ _ _ _) rfl) |>.snoc (.other (.update _ _ _ _) rfl)
      |>.snoc (.fire _ [] _ _ rfl (by simp) (by decide)) |>.snoc (.other (.close _ _) rfl)
      |>.snoc (.other (.work _ (by decide)) rfl)
      |>.snoc (.fire _ [] _ _ rfl (by simp) (by decide))
  obtain ⟨hcount, _, _, horder⟩ :=
    (requests_delivered (hd.mono InTurn.step).run).2 _ (hd.mono InTurn.step)
  exact ⟨_, _, _, rfl, hd, rfl, rfl, rfl, hcount "a.yaml" 1, horder hd⟩

end AppConfig.Editor.Workspace
