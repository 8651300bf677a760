import AppConfig.Proofs.Yaml.Scanning
import AppConfig.Yaml.Read

/-!
# AppConfig.Proofs.Yaml.Failing

Where reading fails: on a line of the text, or at its end.

* `Grammar.Within limit`, `Document.Within limit` — every mark of tokens, events and nodes is on a
  line up to `limit`.
* `read_error_within` — the same of a failure, with the lines of the text for the limit.
-/

namespace AppConfig.Yaml

variable {limit : Nat}

/-! ## Events -/

def Event.Within (limit : Nat) (e : Event) : Prop := e.mark.line ≤ limit

structure Grammar.Within (limit : Nat) (g : Grammar) : Prop where
  tokens : ∀ t ∈ g.tokens, t.Within limit
  cause : ∀ f, g.cause = some f → f.Within limit
  events : ∀ e ∈ g.events, e.Within limit

namespace Grammar

abbrev Stays {α : Type} (limit : Nat) (m : Parse α) : Prop :=
  Keeps (Grammar.Within limit) (Fault.Within limit) m Any

theorem peek_keeps :
    Keeps (Grammar.Within limit) (Fault.Within limit) peek (Token.Within limit) := by
  refine .bind .get fun g hg => ?_
  split
  · rename_i t ht
    exact .pure (hg.tokens t (Array.mem_of_getElem? ht))
  · cases hc : g.cause with
    | none => exact .throw (Nat.zero_le limit)
    | some f => exact .throw (hg.cause f hc)

theorem next_stays : Stays limit next := .modify fun _ hg => ⟨hg.tokens, hg.cause, hg.events⟩

theorem advance_keeps :
    Keeps (Grammar.Within limit) (Fault.Within limit) advance (Token.Within limit) :=
  .bind next_stays fun _ _ => peek_keeps

theorem goto_stays {e : Expect} : Stays limit (goto e) :=
  .modify fun _ hg => ⟨hg.tokens, hg.cause, hg.events⟩

theorem push_stays {e : Expect} : Stays limit (push e) :=
  .modify fun _ hg => ⟨hg.tokens, hg.cause, hg.events⟩

theorem pop_stays : Stays limit pop := .modify fun _ hg => ⟨hg.tokens, hg.cause, hg.events⟩

theorem popStart_stays : Stays limit popStart := by
  refine .bind .get fun _ _ => ?_
  refine .bind (.modify fun _ hg => ⟨hg.tokens, hg.cause, hg.events⟩) fun _ _ => ?_
  exact .pure trivial

theorem emit_stays {kind : EventKind} {mark : Mark} (h : mark.line ≤ limit) :
    Stays limit (emit kind mark) := by
  refine .modify fun g hg => ⟨hg.tokens, hg.cause, fun e he => ?_⟩
  rcases Array.mem_push.mp he with he | rfl
  · exact hg.events e he
  · exact h

theorem resolveTag_stays {nodeStart tagMark : Mark} {handle : String} {suffix : List UInt8}
    (h : tagMark.line ≤ limit) : Stays limit (resolveTag nodeStart tagMark handle suffix) := by
  refine .ite (.pure trivial) (.bind .get fun _ _ => ?_)
  split
  · exact .pure trivial
  · exact .throw h

theorem properties_stays {nodeStart : Mark} : Stays limit (properties nodeStart) := by
  refine .bind peek_keeps fun t ht => ?_
  split
  · refine .bind advance_keeps fun u hu => ?_
    split
    · refine .bind next_stays fun _ _ => .bind peek_keeps.discard fun _ _ => ?_
      exact .bind (resolveTag_stays hu.1) fun _ _ => .pure trivial
    · exact .pure trivial
  · refine .bind advance_keeps fun u hu => ?_
    split
    · refine .bind next_stays fun _ _ => .bind peek_keeps.discard fun _ _ => ?_
      exact .bind (resolveTag_stays ht.1) fun _ _ => .pure trivial
    · exact .bind (resolveTag_stays ht.1) fun _ _ => .pure trivial
  · exact .pure trivial

/-- A node begins and ends where its first token does, or fails at a token. -/
theorem node_stays {block indentless : Bool} : Stays limit (node block indentless) := by
  refine .bind peek_keeps fun first hfirst => ?_
  dsimp only
  split
  · refine .bind pop_stays fun _ _ => .bind (emit_stays hfirst.1) fun _ _ => ?_
    exact .bind next_stays fun _ _ => .pure trivial
  · refine .bind properties_stays fun _ _ => .bind peek_keeps fun t ht => ?_
    have hemit (e : Expect) (kind : EventKind) : Stays limit (do goto e; emit kind first.start) :=
      .bind goto_stays fun _ _ => emit_stays hfirst.1
    refine .ite (hemit _ _) ?_
    split
    · exact .bind pop_stays fun _ _ => .bind (emit_stays hfirst.1) fun _ _ => next_stays
    · exact hemit _ _
    · exact hemit _ _
    · refine .ite (hemit _ _) (.ite (hemit _ _) (.ite ?_ (.throw ht.1)))
      exact .bind pop_stays fun _ _ => emit_stays hfirst.1

theorem directives_stays : Stays limit directives := by
  refine .bind .get fun _ _ => ?_
  refine .bind (.loop fun _ _ => ?_) fun _ _ => ?_
  · refine .bind peek_keeps fun t ht => ?_
    split
    · refine .when (.throw ht.1) fun _ => .whenNot (.throw ht.1) fun _ => ?_
      exact .bind next_stays fun _ _ => .pure trivial
    · exact .when (.throw ht.1) fun _ => .bind next_stays fun _ _ => .pure trivial
    · exact .pure trivial
  · exact .modify fun _ hg => ⟨hg.tokens, hg.cause, hg.events⟩

theorem document_stays {implicit : Bool} : Stays limit (document implicit) := by
  refine .ite ?_ (.bind .get fun _ _ => .bind (.loop fun _ _ => ?_) fun _ _ => ?_)
  case refine_2 =>
    refine .bind peek_keeps fun _ _ => .ite ?_ (.pure trivial)
    exact .bind next_stays fun _ _ => .pure trivial
  all_goals
    refine .bind peek_keeps fun t ht => ?_
    split
    · exact .bind goto_stays fun _ _ => emit_stays ht.1
    · refine .ite (.bind directives_stays fun _ _ => .bind push_stays fun _ _ => ?_)
        (.bind directives_stays fun _ _ => .bind peek_keeps fun u hu => ?_)
      · exact .bind goto_stays fun _ _ => emit_stays ht.1
      · refine .whenNot (.throw hu.1) fun _ => .bind push_stays fun _ _ => ?_
        refine .bind goto_stays fun _ _ => ?_
        exact .bind (emit_stays ht.1) fun _ _ => next_stays

theorem documentContent_stays : Stays limit documentContent := by
  refine .bind peek_keeps fun t ht => .ite ?_ node_stays
  exact .bind pop_stays fun _ _ => emit_stays ht.1

theorem documentEnd_stays : Stays limit documentEnd := by
  refine .bind peek_keeps fun t ht => .when next_stays fun _ => ?_
  exact .bind goto_stays fun _ _ => emit_stays ht.1

theorem enter_stays : Stays limit enter := by
  refine .bind peek_keeps fun t ht => ?_
  refine .bind (.modify fun _ hg => ⟨hg.tokens, hg.cause, hg.events⟩) fun _ _ => next_stays

theorem leave_stays {kind : EventKind} {t : Token} (h : t.Within limit) :
    Stays limit (leave kind t) := by
  refine .bind pop_stays fun _ _ => .bind popStart_stays.discard fun _ _ => ?_
  exact .bind (emit_stays h.1) fun _ _ => next_stays

theorem blockSequenceEntry_stays : Stays limit blockSequenceEntry := by
  refine .bind peek_keeps fun t ht => .ite (.bind advance_keeps fun u hu => .ite ?_ ?_) ?_
  · exact .bind goto_stays fun _ _ => emit_stays ht.2
  · exact .bind push_stays fun _ _ => node_stays
  · exact .ite (leave_stays ht) (.bind popStart_stays fun _ _ => .throw ht.1)

theorem indentlessSequenceEntry_stays : Stays limit indentlessSequenceEntry := by
  refine .bind peek_keeps fun t ht => .ite (.bind advance_keeps fun u hu => .ite ?_ ?_) ?_
  · exact .bind goto_stays fun _ _ => emit_stays ht.2
  · exact .bind push_stays fun _ _ => node_stays
  · exact .bind pop_stays fun _ _ => emit_stays ht.1

theorem blockMappingKey_stays : Stays limit blockMappingKey := by
  refine .bind peek_keeps fun t ht => .ite (.bind advance_keeps fun u hu => .ite ?_ ?_) ?_
  · exact .bind goto_stays fun _ _ => emit_stays ht.2
  · exact .bind push_stays fun _ _ => node_stays
  · exact .ite (leave_stays ht) (.bind popStart_stays fun _ _ => .throw ht.1)

theorem blockMappingValue_stays : Stays limit blockMappingValue := by
  refine .bind peek_keeps fun t ht => .ite (.bind advance_keeps fun u hu => .ite ?_ ?_) ?_
  · exact .bind goto_stays fun _ _ => emit_stays ht.2
  · exact .bind push_stays fun _ _ => node_stays
  · exact .bind goto_stays fun _ _ => emit_stays ht.1

theorem flowSequenceEntry_stays {first : Bool} : Stays limit (flowSequenceEntry first) := by
  refine .bind peek_keeps fun t ht => .ite (.ite ?_ (.ite (.bind advance_keeps fun t ht => ?_) ?_))
    (leave_stays ht)
  case refine_3 => exact .bind popStart_stays fun _ _ => .throw_bind ht.1
  all_goals
    refine .ite ?_ (.ite (.bind push_stays fun _ _ => node_stays) (leave_stays ht))
    refine .bind goto_stays fun _ _ => ?_
    exact .bind (emit_stays ht.1) fun _ _ => next_stays

theorem flowPairKey_stays : Stays limit flowPairKey := by
  refine .bind peek_keeps fun t ht => .ite (.bind next_stays fun _ _ => ?_) ?_
  · exact .bind goto_stays fun _ _ => emit_stays ht.2
  · exact .bind push_stays fun _ _ => node_stays

theorem flowPairValue_stays : Stays limit flowPairValue := by
  refine .bind peek_keeps fun t ht => .ite (.bind advance_keeps fun t ht => .ite ?_ ?_) ?_
  · exact .bind push_stays fun _ _ => node_stays
  · exact .bind goto_stays fun _ _ => emit_stays ht.1
  · exact .bind goto_stays fun _ _ => emit_stays ht.1

theorem flowPairEnd_stays : Stays limit flowPairEnd :=
  .bind peek_keeps fun _ ht => .bind goto_stays fun _ _ => emit_stays ht.1

theorem flowMappingKey_stays {first : Bool} : Stays limit (flowMappingKey first) := by
  refine .bind peek_keeps fun t ht => .ite (.ite ?_ (.ite (.bind advance_keeps fun t ht => ?_) ?_))
    (leave_stays ht)
  case refine_3 => exact .bind popStart_stays fun _ _ => .throw_bind ht.1
  all_goals
    refine .ite (.bind advance_keeps fun u hu => .ite ?_ ?_) (.ite ?_ (leave_stays ht))
    · exact .bind push_stays fun _ _ => node_stays
    · exact .bind goto_stays fun _ _ => emit_stays hu.1
    · exact .bind push_stays fun _ _ => node_stays

theorem flowMappingValue_stays {present : Bool} : Stays limit (flowMappingValue present) := by
  refine .bind peek_keeps fun t ht => .ite (.bind advance_keeps fun t ht => .ite ?_ ?_) ?_
  · exact .bind push_stays fun _ _ => node_stays
  · exact .bind goto_stays fun _ _ => emit_stays ht.1
  · exact .bind goto_stays fun _ _ => emit_stays ht.1

theorem step_stays : Stays limit step := by
  refine .bind .get fun g _ => ?_
  cases g.expect with
  | implicitDocument => exact document_stays
  | document => exact document_stays
  | documentContent => exact documentContent_stays
  | documentEnd => exact documentEnd_stays
  | blockNode => exact node_stays
  | blockSequenceFirst => exact .bind enter_stays fun _ _ => blockSequenceEntry_stays
  | blockSequenceEntry => exact blockSequenceEntry_stays
  | indentlessSequenceEntry => exact indentlessSequenceEntry_stays
  | blockMappingFirst => exact .bind enter_stays fun _ _ => blockMappingKey_stays
  | blockMappingKey => exact blockMappingKey_stays
  | blockMappingValue => exact blockMappingValue_stays
  | flowSequenceFirst => exact .bind enter_stays fun _ _ => flowSequenceEntry_stays
  | flowSequenceEntry => exact flowSequenceEntry_stays
  | flowPairKey => exact flowPairKey_stays
  | flowPairValue => exact flowPairValue_stays
  | flowPairEnd => exact flowPairEnd_stays
  | flowMappingFirst => exact .bind enter_stays fun _ _ => flowMappingKey_stays
  | flowMappingKey => exact flowMappingKey_stays
  | flowMappingValue => exact flowMappingValue_stays
  | flowMappingNoValue => exact flowMappingValue_stays
  | nothing => exact .pure trivial

theorem run_stays : Stays limit run := by
  refine .bind peek_keeps.discard fun _ _ => .bind .get fun _ _ => ?_
  refine .bind (.loop fun _ _ => ?_) fun _ _ => .pure trivial
  refine .bind .get fun _ _ => .ite (.pure trivial) ?_
  exact .bind step_stays fun _ _ => .pure trivial

end Grammar

structure EventStream.Within (limit : Nat) (s : EventStream) : Prop where
  events : ∀ e ∈ s.events, e.Within limit
  fault : ∀ f, s.fault = some f → f.Within limit

theorem ofTokens_within {s : TokenStream} (h : s.Within limit) :
    (EventStream.ofTokens s).Within limit := by
  have hstart : (Grammar.start s).Within limit := ⟨h.tokens, h.fault, by simp [Grammar.start]⟩
  have hkept := Grammar.run_stays _ hstart
  unfold EventStream.ofTokens
  cases hr : Grammar.run (Grammar.start s) with
  | ok u g =>
    rw [hr] at hkept
    exact ⟨hkept.1.events, by simp⟩
  | error fault g =>
    rw [hr] at hkept
    refine ⟨hkept.1.events, fun f hf => ?_⟩
    obtain rfl := Option.some.inj hf
    exact hkept.2

/-! ## The tree -/

def Failure.Within (limit : Nat) (f : Failure) : Prop := ∀ m, f.mark? = some m → m.line ≤ limit

theorem Failure.within_of_mark {f : Failure} {m : Mark} (h : f.mark? = some m)
    (hm : m.line ≤ limit) : f.Within limit := by
  intro m' hm'
  obtain rfl : m = m' := Option.some.inj (h.symm.trans hm')
  exact hm

structure Document.Within (limit : Nat) (d : Document) : Prop where
  nodes : ∀ n ∈ d.nodes, n.2.line ≤ limit
  failure : ∀ f, d.failure = some f → f.Within limit

namespace Document

theorem addNode_within {d : Document} (h : d.Within limit) {mark : Mark} (hmark : mark.line ≤ limit)
    (anchors : Anchors) (anchor : Option String) (node : Node) :
    (addNode d anchors anchor node mark).1.Within limit := by
  have hnodes : ∀ n ∈ d.nodes.push (node, mark), n.2.line ≤ limit := by
    intro n hn
    rcases Array.mem_push.mp hn with hn | rfl
    · exact h.nodes n hn
    · exact hmark
  cases anchor with
  | none => exact ⟨hnodes, h.failure⟩
  | some name => exact ⟨hnodes, h.failure⟩

theorem collect_within {fault : Option Fault} (hfault : ∀ f, fault = some f → f.Within limit)
    {es : List Event} (hes : ∀ e ∈ es, e.Within limit) {d : Document} (h : d.Within limit)
    (anchors : Anchors) : (collect fault d anchors es).1.Within limit := by
  induction es generalizing d anchors with
  | nil =>
    refine ⟨h.nodes, fun f hf => ?_⟩
    obtain ⟨f', hf', rfl⟩ := Option.map_eq_some_iff.mp hf
    exact Failure.within_of_mark rfl (hfault f' hf')
  | cons e es ih =>
    have hmark : e.mark.line ≤ limit := hes e List.mem_cons_self
    replace ih := fun {d : Document} => @ih (fun e he => hes e (List.mem_cons_of_mem _ he)) d
    unfold collect
    dsimp only
    split
    · exact ih h anchors
    · exact h
    · dsimp only
      split
      · refine ⟨fun n hn => ?_, h.failure⟩
        obtain rfl : n = (.absent, e.mark) := by simpa using hn
        exact hmark
      · exact h
    · split
      · exact ih (addNode_within h hmark ..) _
      · refine ⟨h.nodes, fun f hf => ?_⟩
        obtain rfl := Option.some.inj hf
        exact Failure.within_of_mark rfl hmark
    all_goals exact ih (addNode_within h hmark ..) _

abbrev Stays {α : Type} (limit : Nat) (m : Build α) : Prop :=
  Keeps (fun _ => True) (Failure.Within limit) m Any

theorem nodeAt_keeps {d : Document} (h : d.Within limit) (position : Nat) :
    Keeps (fun _ => True) (Failure.Within limit) (d.nodeAt position) (·.2.line ≤ limit) := by
  unfold nodeAt
  split
  · rename_i n hn
    exact .pure (h.nodes n (Array.mem_of_getElem? hn))
  · cases hf : d.failure with
    | none => exact .throw (Failure.within_of_mark rfl (Nat.zero_le limit))
    | some f => exact .throw (h.failure f hf)

theorem build_stays {d : Document} (h : d.Within limit) (depth : Nat) (path : Path)
    (position : Nat) : Stays limit (d.build depth path position) := by
  induction depth using Nat.strongRecOn generalizing path position with
  | ind depth ih =>
    rw [build]
    refine .bind (nodeAt_keeps h position) fun n hmark => ?_
    dsimp only
    split
    case' h_1 =>
      refine .bind .get fun _ _ => .bind (.set trivial) fun _ _ => ?_
      refine .when (.throw (by simp [Failure.Within, Failure.mark?])) fun _ => ?_
      refine .bind (nodeAt_keeps h _) fun n hmark => ?_
    -- the node that is built from here on is the one at the position, or the one its alias names
    all_goals
      refine .bind (Q := fun x => x.2.1.line ≤ limit) (.pure hmark) fun x hx => ?_
      split
      · split
        · exact .pure_bind (.pure trivial)
        · exact .throw_bind (Failure.within_of_mark rfl hx)
      · split
        · exact .throw_bind (Failure.within_of_mark rfl hx)
        · refine .bind (.loop fun _ _ => ?_) fun _ _ => .pure_bind (.pure trivial)
          refine .bind (nodeAt_keeps h _) fun _ _ => ?_
          split
          · exact .pure trivial
          · exact .bind (ih _ (Nat.lt_succ_self _) _ _) fun _ _ => .pure trivial
      · split
        · exact .throw_bind (Failure.within_of_mark rfl hx)
        · refine .bind (.loop fun _ _ => ?_) fun _ _ => .pure_bind (.pure trivial)
          refine .bind (nodeAt_keeps h _) fun _ _ => ?_
          split
          · exact .pure trivial
          · refine .bind (ih _ (Nat.lt_succ_self _) _ _) fun _ _ => ?_
            split
            · exact .throw_bind (Failure.within_of_mark rfl hx)
            · exact .bind (ih _ (Nat.lt_succ_self _) _ _) fun _ _ => .pure trivial
      · exact .pure_bind (.pure trivial)

theorem value_error_within {d : Document} (h : d.Within limit) {f : Failure}
    (hf : d.value = .error f) : f.Within limit := by
  have hkept := build_stays h depthLimit .root 0 0 trivial
  unfold value at hf
  cases hr : d.build depthLimit .root 0 0 with
  | ok r s =>
    rw [hr] at hf
    cases hfail : d.failure with
    | none => simp [hfail] at hf
    | some f' =>
      obtain rfl : f' = f := by simpa [hfail] using hf
      exact h.failure f' hfail
  | error f' s =>
    rw [hr] at hf hkept
    obtain rfl : f' = f := by simpa using hf
    exact hkept.2

end Document

/-! ## Reading -/

theorem scan_chars_prefix (done block : List Char) (used offset : Nat) (text : List Char) :
    (Source.scan done block used offset text).chars <+: (block ++ done).reverse ++ text := by
  induction text generalizing done block used offset with
  | nil => simp [Source.scan]
  | cons c cs ih =>
    unfold Source.scan
    dsimp only
    split
    · split
      · simpa using ih (block ++ done) [c] _ _
      · exact List.prefix_append _ _
    · split
      · simpa using ih done (c :: block) _ _
      · rw [List.reverse_append, List.append_assoc]
        exact List.prefix_append _ _

theorem lineCount_ofText_le (text : List Char) :
    lineCount (Source.ofText text).chars ≤ lineCount text := by
  obtain ⟨rest, hrest⟩ := scan_chars_prefix [] [] 0 0 text
  have hle := linesFrom_append_le false (Source.ofText text).chars rest
  rwa [Source.ofText, hrest] at hle

theorem Failure.Within.mono {f : Failure} {limit limit' : Nat} (h : f.Within limit)
    (hle : limit ≤ limit') : f.Within limit' :=
  fun m hm => Nat.le_trans (h m hm) hle

/-- A failure that has a place is on a line of the text, or at its end. -/
theorem read_error_within {text : List Char} {f : Failure} (h : read text = .error f) :
    f.Within (lineCount text) := by
  have hevents := ofTokens_within (ofSource_within (Source.ofText text))
  have hempty : Document.Within (lineCount (Source.ofText text).chars) ⟨#[], none, []⟩ :=
    ⟨by simp, by simp⟩
  have hdocument := Document.collect_within hevents.fault
    (fun e he => hevents.events e (Array.mem_toList_iff.mp he)) hempty []
  refine Failure.Within.mono ?_ (lineCount_ofText_le text)
  unfold read at h
  dsimp only at h
  split at h
  · rename_i v hv
    split at h
    · obtain rfl := Except.error.inj h
      simp [Failure.Within, Failure.mark?]
    · cases h
  · rename_i f' hf'
    obtain rfl := Except.error.inj h
    exact Document.value_error_within hdocument hf'

end AppConfig.Yaml
