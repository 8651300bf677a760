import AppConfig.Proofs.Editor.Snapshot
import AppConfig.Proofs.Editor.Timeline

/-!
# AppConfig.Proofs.Editor.Latest

Queries are answered from the latest text of a document. In an `Interleaving` the client acts at any
time, and timers and the worker take their steps between any two of its actions.

* `Action.Writes uri` — the actions that put a document under `uri`: an open, or a change with at
  least one text, the last of which counts.
* `Latest uri as d` — `d` is what the latest of them has put there, and `uri` was not closed since.
* `queries_see_latest` — the store and the answers, after any such run.
-/

namespace AppConfig.Editor.Workspace

namespace Action

/-- The action leaves a document under `uri`. -/
inductive Writes (uri : Uri) : Action → Document → Prop where
  | opened (version : Int) (content : List Char) :
      Writes uri (.update uri version content) ⟨version, content⟩
  | changed (version : Int) (texts : List (List Char)) (content : List Char) :
      Writes uri (.change uri version (texts ++ [content])) ⟨version, content⟩

/-- The action leaves a document under `uri`, or takes away the one that is there. -/
def Touches (uri : Uri) (a : Action) : Prop := (∃ d, a.Writes uri d) ∨ a = .close uri

end Action

/-- The document of the most recent write since the last close. -/
def Latest (uri : Uri) (as : List Action) (d : Document) : Prop :=
  ∃ older a newer, as = older ++ a :: newer ∧ a.Writes uri d ∧ ∀ b ∈ newer, ¬ b.Touches uri

/-- The client's actions `as`, with steps of timers and of the worker before, between and after. -/
inductive Interleaving : Workspace → List Action → Workspace → Prop where
  | refl (w : Workspace) : Interleaving w [] w
  | client {w w' : Workspace} {as : List Action} (a : Action) :
      Interleaving w as w' → Interleaving w (as ++ [a]) (w'.act a).1
  | background {w w' w'' : Workspace} {as : List Action} {e : Event} :
      Interleaving w as w' → e.isWork = true → Step w' e w'' → Interleaving w as w''

/-! ## One step -/

theorem Step.store_eq {w w' : Workspace} {e : Event} (h : Step w e w') (he : e.isWork = true) :
    w'.documents.store = w.documents.store := by
  cases h with
  | update uri version content => simp [Event.isWork] at he
  | close uri => simp [Event.isWork] at he
  | fire before t behind _ => rfl
  | pass ms => simp [Event.isWork] at he
  | work hw => exact (work_step hw).store_eq

namespace Action

variable {uri : Uri} {a : Action} {d : Document}

theorem writes_iff : a.Writes uri d ↔ a.edit? = some (uri, d) := by
  constructor
  · intro h
    cases h with
    | opened version content => rfl
    | changed version texts content => simp [edit?]
  · intro h
    cases a with
    | update other version content =>
      obtain ⟨rfl, rfl⟩ : other = uri ∧ ⟨version, content⟩ = d := by simpa [edit?] using h
      exact .opened version content
    | change other version texts =>
      obtain ⟨content, hlast, rfl, rfl⟩ :
          ∃ content, texts.getLast? = some content ∧ other = uri ∧ ⟨version, content⟩ = d := by
        simpa [edit?] using h
      obtain ⟨init, rfl⟩ := List.getLast?_eq_some_iff.mp hlast
      exact .changed version init content
    | _ => simp [edit?] at h

theorem touches_iff : a.Touches uri ↔ a.subject? = some uri := by
  simp only [Touches, writes_iff, subject?]
  cases a with
  | change other version texts =>
    cases texts.getLast? <;> simp [edit?, close?]
  | _ => simp [edit?, close?]

/-- What an action leaves under `uri`. -/
theorem get?_act (w : Workspace) (a : Action) (d : Document) :
    (w.act a).1.documents.get? uri = some d ↔
      a.Writes uri d ∨ (¬ a.Touches uri ∧ w.documents.get? uri = some d) := by
  rw [act_documents, Documents.get?, get?_applyTo, touches_iff, writes_iff]
  cases he : a.edit? with
  | none =>
    by_cases hs : a.subject? = some uri
    · simp [hs]
    · simp [hs, Documents.get?]
  | some e =>
    have hs : a.subject? = some e.1 := by rw [subject?, he, Option.map_some, Option.some_or]
    by_cases hu : e.1 = uri
    · subst hu
      simp [hs, Prod.ext_iff]
    · simp [hs, hu, Prod.ext_iff, Documents.get?]

end Action

theorem latest_snoc {uri : Uri} {as : List Action} {a : Action} {d : Document} :
    Latest uri (as ++ [a]) d ↔ a.Writes uri d ∨ (¬ a.Touches uri ∧ Latest uri as d) := by
  constructor
  · rintro ⟨older, b, newer, heq, hb, hnewer⟩
    rcases snoc_eq_append_cons heq with ⟨newer, rfl, rfl⟩ | ⟨-, rfl, -⟩
    · refine .inr ⟨hnewer a (by simp), older, b, newer, rfl, hb, ?_⟩
      intro c hc
      exact hnewer c (List.mem_append_left _ hc)
    · exact .inl hb
  · rintro (ha | ⟨ha, older, b, newer, rfl, hb, hnewer⟩)
    · exact ⟨as, a, [], rfl, ha, by simp⟩
    · refine ⟨older, b, newer ++ [a], by simp, hb, ?_⟩
      intro c hc
      rcases List.mem_append.mp hc with hc | hc
      · exact hnewer c hc
      · rw [List.mem_singleton.mp hc]
        exact ha

/-! ## A whole run -/

theorem Interleaving.get?_iff {debounce : Nat} {as : List Action} {w : Workspace}
    (h : Interleaving (start debounce) as w) (uri : Uri) (d : Document) :
    w.documents.get? uri = some d ↔ Latest uri as d := by
  induction h with
  | refl => simp [start, Documents.start, Documents.get?, Latest]
  | client a _ ih => rw [Action.get?_act, latest_snoc, ih]
  | background _ he hs ih => rw [Documents.get?, hs.store_eq he, ← ih, Documents.get?]

theorem Interleaving.content_iff {debounce : Nat} {as : List Action} {w : Workspace}
    (h : Interleaving (start debounce) as w) (uri : Uri) (text : List Char) :
    (w.documents.get? uri).map (·.content) = some text ↔ ∃ v, Latest uri as ⟨v, text⟩ := by
  rw [Option.map_eq_some_iff]
  constructor
  · rintro ⟨d, hd, rfl⟩
    exact ⟨d.version, (h.get?_iff uri d).mp hd⟩
  · rintro ⟨v, hv⟩
    exact ⟨⟨v, text⟩, (h.get?_iff uri _).mpr hv, rfl⟩

/-- The answers to a hover and to a completion on a line, from the text of a document. -/
def answersFrom (text : List Char) (line : Nat) : Answer × Answer :=
  (.hover ((Text.line? text line).bind (hoverForLine · line)),
    .completion (some (completionItems ((Text.line? text line).getD []))))

/-- The answers when there is no document. -/
def noAnswers : Answer × Answer := (.hover none, .completion none)

/-- The answers of a workspace. -/
def answersFor (w : Workspace) (uri : Uri) (line : Nat) : Answer × Answer :=
  ((w.act (.hover uri line)).2, (w.act (.completion uri line)).2)

theorem answersFor_eq (w : Workspace) (uri : Uri) (line : Nat) :
    w.answersFor uri line =
      ((w.documents.get? uri).map (·.content)).elim noAnswers (answersFrom · line) := by
  simp only [answersFor, act, Documents.hover, Documents.completion]
  cases w.documents.get? uri with
  | none => rfl
  | some d =>
    simp only [Document.line?, answersFrom, Option.map_some, Option.elim_some]
    cases Text.line? d.content line <;> rfl

/-- However the client and the background interleave, the store holds the latest document of each
URI, and queries are answered from its text alone: another run, whatever its delay and its
background, gives the same answers where it has the same text. Timers and the worker leave the
store as it is. -/
theorem queries_see_latest {debounce : Nat} {as : List Action} {w : Workspace}
    (h : Interleaving (start debounce) as w) :
    (∀ uri d, w.documents.get? uri = some d ↔ Latest uri as d) ∧
      (∀ uri d line, Latest uri as d → w.answersFor uri line = answersFrom d.content line) ∧
      (∀ uri line, (¬ ∃ d, Latest uri as d) →
        w.documents.get? uri = none ∧ w.answersFor uri line = noAnswers) ∧
      (∀ uri line debounce' as' w', Interleaving (start debounce') as' w' →
        (∀ text, (∃ v, Latest uri as ⟨v, text⟩) ↔ ∃ v, Latest uri as' ⟨v, text⟩) →
        w.answersFor uri line = w'.answersFor uri line) ∧
      ∀ e w', e.isWork = true → Step w e w' → w'.documents.store = w.documents.store := by
  refine ⟨h.get?_iff, ?_, ?_, ?_, ?_⟩
  · intro uri d line hd
    rw [answersFor_eq, (h.get?_iff uri d).mpr hd]
    rfl
  · intro uri line hno
    have hnone : w.documents.get? uri = none := by
      cases hg : w.documents.get? uri with
      | none => rfl
      | some d => exact absurd ⟨d, (h.get?_iff uri d).mp hg⟩ hno
    refine ⟨hnone, ?_⟩
    rw [answersFor_eq, hnone]
    rfl
  · intro uri line debounce' as' w' h' hsame
    have hcontent :
        (w.documents.get? uri).map (·.content) = (w'.documents.get? uri).map (·.content) := by
      apply Option.ext
      intro text
      rw [h.content_iff, hsame, h'.content_iff]
    rw [answersFor_eq, answersFor_eq, hcontent]
  · intro e w' he hs
    exact hs.store_eq he

/-- A timer runs out after the open, and a change with no text follows one with two. -/
theorem queries_see_latest_after_empty_change :
    ∃ w, Interleaving (start 7) [.update "a" 1 [], .change "a" 2 ["x".toList, "name: b".toList],
        .change "a" 3 []] w ∧
      w.documents.queue = [.validate "a" 1] ∧
      w.documents.get? "a" = some ⟨2, "name: b".toList⟩ ∧
      w.answersFor "a" 0 = answersFrom "name: b".toList 0 := by
  have opened : Interleaving (start 7) [.update "a" 1 []] ((start 7).update "a" 1 []) :=
    .client (.update "a" 1 []) (.refl (start 7))
  have fired := opened.background (e := .fired ⟨7, "a", 1⟩) rfl (.fire _ [] _ [] rfl)
  have changed := fired.client (.change "a" 2 ["x".toList, "name: b".toList])
  have whole := changed.client (.change "a" 3 [])
  have latest : Latest "a" [.update "a" 1 [], .change "a" 2 ["x".toList, "name: b".toList],
      .change "a" 3 []] ⟨2, "name: b".toList⟩ := by
    refine ⟨[.update "a" 1 []], _, [.change "a" 3 []], rfl, .changed 2 ["x".toList] _, ?_⟩
    simp [Action.touches_iff, Action.subject?, Action.edit?, Action.close?]
  exact ⟨_, whole, rfl, ((queries_see_latest whole).1 "a" _).mpr latest,
    (queries_see_latest whole).2.1 "a" _ 0 latest⟩

end AppConfig.Editor.Workspace
