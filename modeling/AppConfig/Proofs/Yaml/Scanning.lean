import AppConfig.Proofs.Yaml.Keeps
import AppConfig.Yaml.Lexer

/-!
# AppConfig.Proofs.Yaml.Scanning

No token and no fault of the scanner lies behind the last line of a text.

* `lineCount` — the lines of a text, each of which ends at a break of any kind.
* `Scanner.Within limit` — every mark of the scanner is on a line up to `limit`, and there it stays
  with the characters that are ahead.
* `Stays limit m` — `m` keeps that, and no fault of it is behind `limit` either. There is one lemma
  for each move and each lexeme; `scanAll_stays` puts them together.
-/

namespace AppConfig.Yaml

/-- A line ends with `c`, which `cs` follows. A carriage return leaves that to a line feed behind
it. -/
def endsLine (c : Char) (cs : List Char) : Bool := isBreakChar c && !(c == '\r' && at? '\n' cs)

/-- The lines of a text of whose first line something has already been read, or nothing. -/
def linesFrom : Bool → List Char → Nat
  | begun, [] => begun.toNat
  | _, c :: cs => if endsLine c cs then linesFrom false cs + 1 else linesFrom true cs

/-- The lines of a text, each of which ends at a break of any kind. -/
def lineCount (text : List Char) : Nat := linesFrom false text

theorem linesFrom_true_le (cs : List Char) : linesFrom true cs ≤ linesFrom false cs + 1 := by
  cases cs with
  | nil => simp [linesFrom]
  | cons c cs => exact Nat.le_succ _

theorem linesFrom_false_le (cs : List Char) : linesFrom false cs ≤ linesFrom true cs := by
  cases cs with
  | nil => exact Nat.zero_le _
  | cons c cs => exact Nat.le_refl _

theorem linesFrom_tail_le (begun : Bool) (c : Char) (cs : List Char) :
    linesFrom true cs ≤ linesFrom begun (c :: cs) := by
  rw [linesFrom]
  split
  · exact linesFrom_true_le cs
  · exact Nat.le_refl _

theorem linesFrom_drop_le (n column : Nat) (cs : List Char) :
    linesFrom (column + (cs.take n).length != 0) (cs.drop n) ≤ linesFrom (column != 0) cs := by
  induction n generalizing column cs with
  | zero => simp
  | succ n ih =>
    cases cs with
    | nil => simp
    | cons c cs =>
      have hcolumn :
          column + ((c :: cs).take (n + 1)).length = column + 1 + (cs.take n).length := by
        simp only [List.take_succ_cons, List.length_cons]
        omega
      rw [hcolumn, List.drop_succ_cons]
      exact Nat.le_trans (ih (column + 1) cs) (linesFrom_tail_le _ c cs)

theorem toNat_le_linesFrom (begun : Bool) (cs : List Char) : begun.toNat ≤ linesFrom begun cs := by
  induction cs generalizing begun with
  | nil => exact Nat.le_refl _
  | cons c cs ih =>
    have hbegun : begun.toNat ≤ 1 := Bool.toNat_le begun
    rw [linesFrom]
    split
    · omega
    · exact Nat.le_trans hbegun (ih true)

theorem linesFrom_append_le (begun : Bool) (cs ds : List Char) :
    linesFrom begun cs ≤ linesFrom begun (cs ++ ds) := by
  induction cs generalizing begun with
  | nil => exact toNat_le_linesFrom begun ds
  | cons c cs ih =>
    cases cs with
    | nil =>
      have hone : linesFrom begun [c] = 1 := by
        rw [linesFrom]
        split <;> rfl
      rw [hone]
      exact Nat.le_trans (toNat_le_linesFrom true ds) (linesFrom_tail_le begun c ds)
    | cons d cs =>
      have hends : endsLine c (d :: (cs ++ ds)) = endsLine c (d :: cs) := rfl
      rw [List.cons_append, List.cons_append, linesFrom, linesFrom.eq_def begun (c :: _)]
      simp only [hends]
      split
      · exact Nat.succ_le_succ (ih false)
      · exact ih true

/-! ## The scanner -/

def Fault.Within (limit : Nat) (f : Fault) : Prop := f.mark.line ≤ limit

def Token.Within (limit : Nat) (t : Token) : Prop := t.start.line ≤ limit ∧ t.stop.line ≤ limit

/-- No mark is behind line `limit`, and none will be when what is ahead has been read. -/
structure Scanner.Within (limit : Nat) (s : Scanner) : Prop where
  reach : s.mark.line + linesFrom (s.mark.column != 0) s.ahead ≤ limit
  tokens : ∀ t ∈ s.tokens, t.Within limit
  keys : ∀ k, some k ∈ s.keys → k.mark.line ≤ limit

variable {limit : Nat} {α : Type}

namespace Scanner.Within

variable {s : Scanner}

theorem mark (h : s.Within limit) : s.mark.line ≤ limit :=
  Nat.le_trans (Nat.le_add_right _ _) h.reach

theorem push (h : s.Within limit) {t : Token} (ht : t.Within limit) :
    ∀ u ∈ s.tokens.push t, u.Within limit := by
  intro u hu
  rcases Array.mem_push.mp hu with hu | rfl
  · exact h.tokens u hu
  · exact ht

theorem insert (h : s.Within limit) (n : Nat) {t : Token} (ht : t.Within limit) :
    ∀ u ∈ s.tokens.insertIdxIfInBounds n t, u.Within limit := by
  intro u hu
  unfold Array.insertIdxIfInBounds at hu
  split at hu
  · rcases Array.mem_insertIdx.mp hu with rfl | hu
    · exact ht
    · exact h.tokens u hu
  · exact h.tokens u hu

theorem drop_keys (h : s.Within limit) (n : Nat) :
    ∀ k, some k ∈ s.keys.drop n → k.mark.line ≤ limit :=
  fun k hk => h.keys k (List.mem_of_mem_drop hk)

/-- Behind a break, one line less is ahead. -/
theorem pastBreak (h : s.Within limit) {n : Nat}
    (hn : linesFrom false (s.ahead.drop n) + 1 ≤ linesFrom (s.mark.column != 0) s.ahead) :
    Scanner.Within limit { s with
      ahead := s.ahead.drop n
      left := s.left - n
      mark := ⟨s.mark.index + byteCount (s.ahead.take n), s.mark.line + 1, 0⟩ } := by
  refine ⟨?_, h.tokens, h.keys⟩
  have hreach := h.reach
  simp only [bne_self_eq_false]
  omega

end Scanner.Within

abbrev Stays (limit : Nat) (m : Scan α) : Prop :=
  Keeps (Scanner.Within limit) (Fault.Within limit) m Any

/-! ## Moves -/

theorem failIn_stays {context : Context} {start : Mark} {problem : Problem} :
    Stays limit (failIn context start problem : Scan α) :=
  .bind .get fun _ hs => .throw hs.mark

theorem failHere_stays {problem : Problem} : Stays limit (failHere problem : Scan α) :=
  .bind .get fun _ hs => .throw hs.mark

theorem look_eq (n : Nat) (s : Scanner) :
    look n s = .ok s.ahead s ∨ ∃ offset, look n s = .error (Source.cutFault offset) s := by
  have hget : (get : Scan Scanner) s = .ok s s := rfl
  rw [look, bind_ok hget]
  cases s.cut with
  | none => exact .inl rfl
  | some offset =>
    dsimp only
    by_cases hleft : s.left < n
    · exact .inr ⟨offset, by rw [if_pos hleft]; rfl⟩
    · exact .inl (by rw [if_neg hleft]; rfl)

theorem look_stays {n : Nat} : Stays limit (look n) := by
  refine .bind .get fun s hs => ?_
  cases s.cut with
  | none => exact .pure trivial
  | some offset => exact .ite (.throw (Nat.zero_le limit)) (.pure trivial)

theorem skip_stays {n : Nat} : Stays limit (skip n) := by
  refine .modify fun s hs => ⟨?_, hs.tokens, hs.keys⟩
  exact Nat.le_trans (Nat.add_le_add_left (linesFrom_drop_le n _ _) _) hs.reach

theorem run_stays {p : Char → Bool} : Stays limit (run p) := by
  refine .bind .get fun s _ => ?_
  refine .bind skip_stays fun _ _ => ?_
  exact .when look_stays.discard fun _ => .pure trivial

/-- The characters ahead are known. -/
abbrev StaysAt (limit : Nat) (cs : List Char) (m : Scan α) : Prop :=
  Leads (fun s => s.Within limit ∧ s.ahead = cs) (Scanner.Within limit) (Fault.Within limit) m Any

theorem Stays.at (cs : List Char) {m : Scan α} (h : Stays limit m) : StaysAt limit cs m :=
  fun s hs => h s hs.1

theorem Stays.look_bind {n : Nat} {f : List Char → Scan α} (h : ∀ cs, StaysAt limit cs (f cs)) :
    Stays limit (look n >>= f) := by
  intro s hs
  rcases look_eq n s with hok | ⟨offset, herror⟩
  · rw [bind_ok hok]
    exact h s.ahead s ⟨hs, rfl⟩
  · rw [bind_error herror]
    exact ⟨hs, Nat.zero_le limit⟩

theorem endsLine_of_break {c : Char} {cs : List Char} (hc : isBreakChar c = true)
    (hcrlf : ∀ tail, c = '\r' → cs = '\n' :: tail → False) : endsLine c cs = true := by
  cases cs with
  | nil => simp [endsLine, hc, at?]
  | cons d ds =>
    have hlone : ¬ c = '\r' ∨ ¬ '\n' = d :=
      Decidable.not_and_iff_or_not.mp fun h => hcrlf ds h.1 (by rw [h.2])
    simpa [endsLine, hc, at?] using hlone

theorem takeBreak_stays : Stays limit takeBreak := by
  refine Stays.look_bind fun cs => ?_
  split
  · rename_i cs
    intro s ⟨hs, hcs⟩
    exact ⟨hs.pastBreak (by simp [hcs, linesFrom, endsLine, isBreakChar, at?]), trivial⟩
  · rename_i c cs hcrlf
    -- all other breaks are one character, and differ only in what stands for them
    have hone (r : List Char) (hc : isBreakChar c = true) : StaysAt limit (c :: cs) (do
        modify fun s : Scanner => { s with
          ahead := s.ahead.drop 1
          left := s.left - 1
          mark := ⟨s.mark.index + byteCount (s.ahead.take 1), s.mark.line + 1, 0⟩ }
        pure r) := by
      intro s ⟨hs, hcs⟩
      refine ⟨hs.pastBreak ?_, trivial⟩
      rw [hcs, linesFrom, if_pos (endsLine_of_break hc hcrlf)]
      exact Nat.le_refl _
    split
    · rename_i hc
      exact hone _ (by simp only [isBreakChar, Bool.or_assoc, hc, Bool.or_true])
    · split
      · rename_i hc
        exact hone _ hc
      · exact Stays.at _ (.pure trivial)
  · exact Stays.at _ (.pure trivial)

theorem skipToLineEnd_stays : Stays limit skipToLineEnd := by
  refine .bind run_stays.discard fun _ _ => ?_
  refine .bind look_stays fun _ _ => ?_
  exact .ite run_stays.discard (.pure trivial)

theorem emit_stays {kind : TokenKind} {start : Mark} (h : start.line ≤ limit) :
    Stays limit (emit kind start) :=
  .modify fun _ hs => ⟨hs.reach, hs.push ⟨h, hs.mark⟩, hs.keys⟩

/-! ## Keys and blocks -/

theorem allowKey_stays {allowed : Bool} : Stays limit (allowKey allowed) :=
  .modify fun _ hs => ⟨hs.reach, hs.tokens, hs.keys⟩

theorem dropStaleKeys_stays : Stays limit dropStaleKeys := by
  refine .bind .get fun s hs => ?_
  refine .bind (.forIn_list (R := Any) trivial fun k? _ _ => ?_) fun _ _ => ?_
  · split
    · exact .ite (.bind failIn_stays fun _ _ => .pure trivial) (.pure trivial)
    · exact .pure trivial
  · refine .modify fun s hs => ⟨hs.reach, hs.tokens, fun k hk => ?_⟩
    obtain ⟨k?, hmem, hk?⟩ := List.mem_map.mp hk
    obtain ⟨rfl, -⟩ := Option.filter_eq_some_iff.mp hk?
    exact hs.keys k hmem

theorem dropKey_stays : Stays limit dropKey := by
  have hdrop :
      Stays limit (modify fun s : Scanner => { s with keys := none :: s.keys.drop 1 }) := by
    refine .modify fun s hs => ⟨hs.reach, hs.tokens, fun k hk => ?_⟩
    exact hs.drop_keys 1 k (by simpa using hk)
  refine .bind .get fun s hs => ?_
  dsimp only
  split
  · exact .ite (.bind failIn_stays fun _ _ => hdrop) hdrop
  · exact hdrop

theorem noteKey_stays : Stays limit noteKey := by
  refine .bind .get fun s hs => ?_
  refine .ite (.bind dropKey_stays fun _ _ => ?_) (.pure trivial)
  refine .modify fun s' hs' => ⟨hs'.reach, hs'.tokens, fun k hk => ?_⟩
  rcases List.mem_cons.mp hk with heq | hk
  · obtain rfl := Option.some.inj heq
    exact hs.mark
  · exact hs'.drop_keys 1 k hk

theorem openBlock_stays {column : Nat} {number : Option Nat} {kind : TokenKind} {mark : Mark}
    (h : mark.line ≤ limit) : Stays limit (openBlock column number kind mark) := by
  refine .modify fun s hs => ?_
  split
  · cases number with
    | some n => exact ⟨hs.reach, hs.insert n ⟨h, h⟩, hs.keys⟩
    | none => exact ⟨hs.reach, hs.push ⟨h, h⟩, hs.keys⟩
  · exact hs

theorem closeBlocks_stays {column : Int} : Stays limit (closeBlocks column) := by
  refine .bind .get fun s hs => ?_
  refine .ite (.bind .get fun s hs => ?_) (.pure trivial)
  refine .bind (.loop fun _ _ => ?_) fun _ _ => .pure trivial
  refine .bind .get fun s hs => ?_
  refine .ite (.pure trivial) (.bind (.modify fun s hs => ?_) fun _ _ => .pure trivial)
  exact ⟨hs.reach, hs.push ⟨hs.mark, hs.mark⟩, hs.keys⟩

theorem skipToToken_stays : Stays limit skipToToken := by
  refine .bind .get fun s hs => ?_
  refine .bind (.loop fun _ _ => ?_) fun _ _ => .pure trivial
  refine .bind .get fun s hs => ?_
  refine .bind look_stays fun _ _ => ?_
  refine .when skip_stays fun _ => ?_
  refine .bind .get fun s hs => ?_
  refine .bind run_stays.discard fun _ _ => ?_
  refine .bind look_stays fun _ _ => ?_
  refine .when run_stays.discard fun _ => ?_
  refine .bind look_stays fun _ _ => ?_
  refine .ite (.pure trivial) ?_
  refine .bind takeBreak_stays.discard fun _ _ => ?_
  refine .bind .get fun s hs => ?_
  exact .ite (.bind allowKey_stays fun _ _ => .pure trivial) (.pure trivial)

theorem scanIndicator_stays {kind : TokenKind} : Stays limit (scanIndicator kind) :=
  .bind .get fun _ hs => .bind skip_stays fun _ _ => emit_stays hs.mark

/-! ## Names, tags and directives -/

theorem scanName_stays {context : Context} {kind : String → TokenKind} :
    Stays limit (scanName context kind) := by
  refine .bind .get fun s hs => ?_
  refine .bind skip_stays fun _ _ => ?_
  refine .bind run_stays fun _ _ => ?_
  refine .bind look_stays fun _ _ => ?_
  exact .when failIn_stays fun _ => emit_stays hs.mark

theorem scanTrailingOctets_stays {context : Context} {start : Mark} {n : Nat} :
    Stays limit (scanTrailingOctets context start n) := by
  induction n with
  | zero => exact .pure trivial
  | succ n ih =>
    refine .bind look_stays fun _ _ => ?_
    split
    · exact failIn_stays
    · refine .whenNot failIn_stays fun _ => ?_
      refine .bind skip_stays fun _ _ => ?_
      exact .bind ih fun _ _ => .pure trivial

theorem scanEscapedChar_stays {context : Context} {start : Mark} :
    Stays limit (scanEscapedChar context start) := by
  refine .bind look_stays fun _ _ => ?_
  split
  · exact failIn_stays
  · split
    · exact failIn_stays
    · refine .bind skip_stays fun _ _ => ?_
      exact .bind scanTrailingOctets_stays fun _ _ => .pure trivial

theorem scanUri_stays {whole hasHead : Bool} {head : List UInt8} {context : Context}
    {start : Mark} : Stays limit (scanUri whole hasHead head context start) := by
  refine .bind .get fun s hs => ?_
  refine .bind (.loop fun _ _ => ?_) fun _ _ => ?_
  · refine .bind look_stays fun _ _ => ?_
    split
    · exact .pure trivial
    · refine .ite (.pure trivial) (.ite ?_ ?_)
      · exact .bind scanEscapedChar_stays fun _ _ => .pure trivial
      · exact .bind skip_stays fun _ _ => .pure trivial
  · refine .bind look_stays.discard fun _ _ => ?_
    exact .whenNot failIn_stays fun _ => .pure trivial

theorem scanHandle_stays {inDirective : Bool} {start : Mark} :
    Stays limit (scanHandle inDirective start) := by
  refine .bind look_stays fun _ _ => ?_
  refine .whenNot failIn_stays fun _ => ?_
  refine .bind skip_stays fun _ _ => ?_
  refine .bind run_stays fun _ _ => ?_
  refine .bind look_stays fun _ _ => ?_
  refine .ite (.bind skip_stays fun _ _ => .pure trivial) ?_
  exact .when failIn_stays fun _ => .pure trivial

theorem scanTag_stays : Stays limit scanTag := by
  refine .bind .get fun s hs => ?_
  refine .bind look_stays fun _ _ => ?_
  have hrest (handle : String) (suffix : List UInt8) : Stays limit (do
      let ahead ← look 1
      let s' ← get
      unless (s'.flowDepth != 0 && at? ',' ahead) || atGap ahead do
        failIn .tag s.mark .missingBlankOrBreak
      emit (.tag handle suffix) s.mark) := by
    refine .bind look_stays fun _ _ => ?_
    refine .bind .get fun _ _ => ?_
    exact .whenNot failIn_stays fun _ => emit_stays hs.mark
  split
  · refine .bind skip_stays fun _ _ => ?_
    refine .bind scanUri_stays fun _ _ => ?_
    refine .bind look_stays fun _ _ => ?_
    refine .whenNot failIn_stays fun _ => ?_
    exact .bind skip_stays fun _ _ => .pure_bind (hrest _ _)
  · refine .bind scanHandle_stays fun handle _ => ?_
    refine .ite (.bind scanUri_stays fun _ _ => .pure_bind (hrest _ _)) ?_
    exact .bind scanUri_stays fun _ _ => .ite (.pure_bind (hrest _ _)) (.pure_bind (hrest _ _))

theorem scanVersionDigits_stays {start : Mark} {n acc : Nat} :
    Stays limit (scanVersionDigits start n acc) := by
  induction n generalizing acc with
  | zero =>
    unfold scanVersionDigits
    refine .bind look_stays fun _ _ => ?_
    split
    · exact .ite failIn_stays (.pure trivial)
    · exact .pure trivial
  | succ n ih =>
    unfold scanVersionDigits
    refine .bind look_stays fun _ _ => ?_
    split
    · exact .ite (.bind skip_stays fun _ _ => ih) (.pure trivial)
    · exact .pure trivial

theorem scanVersionNumber_stays {start : Mark} : Stays limit (scanVersionNumber start) := by
  refine .bind look_stays fun _ _ => ?_
  split
  · exact .ite scanVersionDigits_stays failIn_stays
  · exact failIn_stays

theorem scanVersionDirective_stays {start : Mark} : Stays limit (scanVersionDirective start) := by
  refine .bind run_stays.discard fun _ _ => ?_
  refine .bind scanVersionNumber_stays fun _ _ => ?_
  refine .bind look_stays fun _ _ => ?_
  refine .whenNot failIn_stays fun _ => ?_
  refine .bind skip_stays fun _ _ => ?_
  exact .bind scanVersionNumber_stays fun _ _ => .pure trivial

theorem scanTagDirective_stays {start : Mark} : Stays limit (scanTagDirective start) := by
  refine .bind run_stays.discard fun _ _ => ?_
  refine .bind scanHandle_stays fun _ _ => ?_
  refine .bind look_stays fun _ _ => ?_
  refine .whenNot failIn_stays fun _ => ?_
  refine .bind run_stays.discard fun _ _ => ?_
  refine .bind scanUri_stays fun _ _ => ?_
  refine .bind look_stays fun _ _ => ?_
  exact .whenNot failIn_stays fun _ => .pure trivial

theorem scanDirective_stays : Stays limit scanDirective := by
  refine .bind .get fun s hs => ?_
  refine .bind skip_stays fun _ _ => ?_
  refine .bind run_stays fun _ _ => ?_
  refine .when failIn_stays fun _ => ?_
  refine .bind look_stays fun _ _ => ?_
  refine .whenNot failIn_stays fun _ => ?_
  refine .ite (.bind scanVersionDirective_stays fun kind _ => ?_)
    (.ite (.bind scanTagDirective_stays fun kind _ => ?_) (.bind failIn_stays fun kind _ => ?_))
  all_goals
    refine .bind (emit_stays hs.mark) fun _ _ => ?_
    refine .bind skipToLineEnd_stays fun _ _ => ?_
    refine .bind look_stays fun _ _ => ?_
    exact .whenNot failIn_stays fun _ => takeBreak_stays.discard

/-! ## Scalars -/

theorem scanChomping_stays : Stays limit scanChomping := by
  refine .bind look_stays fun _ _ => ?_
  split
  · exact .bind skip_stays fun _ _ => .pure trivial
  · exact .bind skip_stays fun _ _ => .pure trivial
  · exact .pure trivial

theorem scanIncrement_stays {start : Mark} : Stays limit (scanIncrement start) := by
  refine .bind look_stays fun _ _ => ?_
  split
  · refine .ite (.pure trivial) (.ite failIn_stays ?_)
    exact .bind skip_stays fun _ _ => .pure trivial
  · exact .pure trivial

theorem scanIndentation_stays {start : Mark} {indent : Int} :
    Stays limit (scanIndentation start indent) := by
  refine .bind .get fun _ _ => ?_
  refine .bind (.loop fun _ _ => ?_) fun _ _ => .pure trivial
  refine .bind .get fun _ _ => ?_
  refine .bind skip_stays fun _ _ => ?_
  refine .bind look_stays fun _ _ => ?_
  refine .bind .get fun _ _ => ?_
  refine .when failIn_stays fun _ => ?_
  exact .ite (.pure trivial) (.bind takeBreak_stays fun _ _ => .pure trivial)

theorem scanBlockScalar_stays {literal : Bool} : Stays limit (scanBlockScalar literal) := by
  refine .bind .get fun s hs => ?_
  refine .bind skip_stays fun _ _ => ?_
  refine .bind scanChomping_stays fun _ _ => ?_
  refine .bind scanIncrement_stays fun _ _ => ?_
  refine .ite (.bind scanChomping_stays fun _ _ => ?_) (.pure_bind ?_)
  all_goals
    refine .bind skipToLineEnd_stays fun _ _ => ?_
    refine .bind look_stays fun _ _ => ?_
    refine .whenNot failIn_stays fun _ => ?_
    refine .bind takeBreak_stays.discard fun _ _ => ?_
    refine .bind .get fun _ _ => ?_
    refine .bind scanIndentation_stays fun _ _ => ?_
    refine .bind .get fun _ _ => ?_
    refine .bind (.loop fun _ _ => ?_) fun _ _ => ?_
    · refine .bind look_stays fun _ _ => ?_
      refine .bind .get fun _ _ => ?_
      refine .ite (.pure trivial) (.ite (.ite ?_ ?_) ?_)
      all_goals
        refine .bind run_stays fun _ _ => ?_
        refine .bind takeBreak_stays fun _ _ => ?_
        exact .bind scanIndentation_stays fun _ _ => .pure trivial
    · refine .ite (.ite ?_ ?_) (.ite ?_ ?_)
      all_goals exact emit_stays hs.mark

theorem Gap.scan_stays {gap : Gap} {start : Mark} {indent : Option Int} :
    Stays limit (gap.scan start indent) := by
  refine .bind .get fun _ _ => ?_
  refine .bind (.loop fun _ _ => ?_) fun _ _ => ?_
  · refine .bind look_stays fun _ _ => ?_
    split
    · exact .pure trivial
    · rename_i c _
      refine .ite ?_ (.ite (.bind takeBreak_stays fun _ _ => .pure trivial) (.pure trivial))
      refine .ite ?_ ?_
      · dsimp only
        split
        · refine .bind .get fun _ _ => .when failIn_stays fun _ => ?_
          exact .bind skip_stays fun _ _ => .ite (.pure trivial) (.pure trivial)
        · exact .bind skip_stays fun _ _ => .ite (.pure trivial) (.pure trivial)
      · exact .bind skip_stays fun _ _ => .ite (.pure trivial) (.pure trivial)
  · exact .bind look_stays.discard fun _ _ => .pure trivial

theorem scanPlainRun_stays {start : Mark} : Stays limit (scanPlainRun start) := by
  refine .bind .get fun _ _ => ?_
  refine .bind .get fun _ _ => ?_
  refine .bind (.loop fun _ _ => ?_) fun _ _ => .pure trivial
  refine .bind look_stays fun _ _ => ?_
  split
  · exact .pure trivial
  · refine .ite (.pure trivial) (.when failIn_stays fun _ => ?_)
    exact .ite (.pure trivial) (.bind skip_stays fun _ _ => .pure trivial)

theorem scanPlainScalar_stays : Stays limit scanPlainScalar := by
  refine .bind .get fun s hs => ?_
  refine .bind .get fun _ _ => ?_
  refine .bind .get fun _ _ => ?_
  -- the rounds hand on where the last word has ended, because the token ends there
  refine .bind (.forIn_range (R := fun r => r.1.line ≤ limit) hs.mark fun _ r hr => ?_)
    fun r hr => ?_
  · refine .bind look_stays fun _ _ => ?_
    refine .bind .get fun _ _ => ?_
    refine .ite (.pure hr) (.ite (.pure hr) ?_)
    refine .bind scanPlainRun_stays fun _ _ => ?_
    refine .ite (.bind .get fun s' hs' => ?_) ?_
    · refine .bind look_stays fun _ _ => .ite (.pure hs'.mark) ?_
      refine .bind Gap.scan_stays fun _ _ => ?_
      exact .bind .get fun _ _ => .bind .get fun _ _ => .ite (.pure hs'.mark) (.pure hs'.mark)
    · refine .bind look_stays fun _ _ => .ite (.pure hr) ?_
      refine .bind Gap.scan_stays fun _ _ => ?_
      exact .bind .get fun _ _ => .bind .get fun _ _ => .ite (.pure hr) (.pure hr)
  · exact .modify fun s' hs' => ⟨hs'.reach, hs'.push ⟨hs.mark, hr⟩, hs'.keys⟩

theorem scanEscape_stays {start : Mark} : Stays limit (scanEscape start) := by
  refine .bind look_stays fun _ _ => ?_
  dsimp only
  split
  · exact .bind skip_stays fun _ _ => .pure trivial
  · split
    · exact failIn_stays
    · refine .bind skip_stays fun _ _ => ?_
      refine .bind look_stays fun _ _ => ?_
      split
      · exact failIn_stays
      · exact .when failIn_stays fun _ => .bind skip_stays fun _ _ => .pure trivial

theorem scanQuotedRun_stays {single : Bool} {start : Mark} :
    Stays limit (scanQuotedRun single start) := by
  refine .bind .get fun _ _ => ?_
  refine .bind (.loop fun _ _ => ?_) fun _ _ => ?_
  · refine .bind look_stays fun _ _ => ?_
    split
    · exact .pure trivial
    · refine .ite (.pure trivial) (.ite (.ite (.ite ?_ ?_) ?_) (.ite ?_ (.ite (.ite ?_ ?_) ?_)))
      · exact .bind skip_stays fun _ _ => .pure trivial
      · exact .pure trivial
      · exact .bind skip_stays fun _ _ => .pure trivial
      · exact .pure trivial
      · refine .bind skip_stays fun _ _ => ?_
        exact .bind takeBreak_stays.discard fun _ _ => .pure trivial
      · exact .bind scanEscape_stays fun _ _ => .pure trivial
      · exact .bind skip_stays fun _ _ => .pure trivial
  · dsimp only
    split
    · exact .pure trivial
    · exact .bind look_stays.discard fun _ _ => .pure trivial

theorem scanQuotedScalar_stays {single : Bool} : Stays limit (scanQuotedScalar single) := by
  refine .bind .get fun s hs => ?_
  refine .bind skip_stays fun _ _ => ?_
  refine .bind .get fun _ _ => ?_
  refine .bind (.loop fun _ _ => ?_) fun _ _ => ?_
  · refine .bind look_stays fun _ _ => ?_
    refine .bind .get fun _ _ => ?_
    refine .when failIn_stays fun _ => ?_
    refine .when failIn_stays fun _ => ?_
    refine .bind scanQuotedRun_stays fun _ _ => ?_
    refine .bind look_stays fun _ _ => ?_
    refine .ite (.pure trivial) ?_
    exact .bind Gap.scan_stays fun _ _ => .pure trivial
  · refine .bind skip_stays fun _ _ => ?_
    exact emit_stays hs.mark

/-! ## Tokens -/

theorem scanStreamEnd_staysAt : StaysAt limit [] scanStreamEnd := by
  refine Leads.bind (Q := Any) ?_ fun _ _ => ?_
  · intro s ⟨hs, hend⟩
    refine ⟨?_, trivial⟩
    have hreach := hs.reach
    -- with nothing ahead, only a line that has been begun is left, and it is this one
    rw [hend, linesFrom] at hreach
    dsimp only
    split
    · exact hs
    · rename_i hcolumn
      have hbegun : (s.mark.column != 0).toNat = 1 := by simpa [bne] using hcolumn
      refine ⟨?_, hs.tokens, hs.keys⟩
      rw [hbegun] at hreach
      rw [hend, linesFrom]
      exact hreach
  · refine .bind closeBlocks_stays fun _ _ => ?_
    refine .bind dropKey_stays fun _ _ => ?_
    refine .bind allowKey_stays fun _ _ => ?_
    refine .bind .get fun s hs => ?_
    refine .bind (emit_stays hs.mark) fun _ _ => ?_
    exact .modify fun _ hs => ⟨hs.reach, hs.tokens, hs.keys⟩

theorem scanDocumentIndicator_stays {kind : TokenKind} :
    Stays limit (scanDocumentIndicator kind) := by
  refine .bind closeBlocks_stays fun _ _ => ?_
  refine .bind dropKey_stays fun _ _ => ?_
  refine .bind allowKey_stays fun _ _ => ?_
  refine .bind .get fun s hs => ?_
  exact .bind skip_stays fun _ _ => emit_stays hs.mark

theorem scanFlowStart_stays {kind : TokenKind} : Stays limit (scanFlowStart kind) := by
  refine .bind noteKey_stays fun _ _ => ?_
  refine .bind (.modify fun s hs => ⟨hs.reach, hs.tokens, fun k hk => ?_⟩) fun _ _ => ?_
  · exact hs.keys k (by simpa using hk)
  · exact .bind allowKey_stays fun _ _ => scanIndicator_stays

theorem scanFlowEnd_stays {kind : TokenKind} : Stays limit (scanFlowEnd kind) := by
  refine .bind dropKey_stays fun _ _ => ?_
  refine .bind (.modify fun s hs => ?_) fun _ _ => ?_
  · split
    · exact hs
    · exact ⟨hs.reach, hs.tokens, hs.drop_keys 1⟩
  · exact .bind allowKey_stays fun _ _ => scanIndicator_stays

theorem scanFlowEntry_stays : Stays limit scanFlowEntry :=
  .bind dropKey_stays fun _ _ => .bind allowKey_stays fun _ _ => scanIndicator_stays

theorem scanBlockEntry_stays : Stays limit scanBlockEntry := by
  refine .bind .get fun s hs => ?_
  refine .ite (.whenNot failHere_stays fun _ => .bind (openBlock_stays hs.mark) fun _ _ => ?_) ?_
  all_goals
    refine .bind dropKey_stays fun _ _ => ?_
    exact .bind allowKey_stays fun _ _ => scanIndicator_stays

theorem scanKeyIndicator_stays : Stays limit scanKeyIndicator := by
  refine .bind .get fun s hs => ?_
  refine .ite (.whenNot failHere_stays fun _ => .bind (openBlock_stays hs.mark) fun _ _ => ?_) ?_
  all_goals
    refine .bind dropKey_stays fun _ _ => ?_
    exact .bind allowKey_stays fun _ _ => scanIndicator_stays

theorem scanValueIndicator_stays : Stays limit scanValueIndicator := by
  refine .bind .get fun s hs => ?_
  dsimp only
  split
  · rename_i k rest hkeys
    have hk : k.mark.line ≤ limit := hs.keys k (by simp [hkeys])
    refine .bind (.set ⟨hs.reach, hs.insert k.number ⟨hk, hk⟩, fun k' hk' => ?_⟩) fun _ _ => ?_
    · have hrest : some k' ∈ rest := by simpa using hk'
      exact hs.keys k' (by simp [hkeys, hrest])
    · refine .bind (openBlock_stays hk) fun _ _ => ?_
      exact .bind allowKey_stays fun _ _ => scanIndicator_stays
  · refine .ite (.whenNot failHere_stays fun _ => .bind (openBlock_stays hs.mark) fun _ _ => ?_) ?_
    all_goals exact .bind allowKey_stays fun _ _ => scanIndicator_stays

theorem scanKeyLike_stays {scan : Scan Unit} (h : Stays limit scan) :
    Stays limit (scanKeyLike scan) :=
  .bind noteKey_stays fun _ _ => .bind allowKey_stays fun _ _ => h

theorem scanNext_stays : Stays limit scanNext := by
  refine .bind skipToToken_stays fun _ _ => ?_
  refine .bind dropStaleKeys_stays fun _ _ => ?_
  refine .bind .get fun _ _ => ?_
  refine .bind closeBlocks_stays fun _ _ => ?_
  -- the stream ends only where nothing is ahead, so what is ahead must not be forgotten
  refine Stays.look_bind fun ahead => ?_
  refine .get_bind fun _ _ => .get_bind fun _ _ => ?_
  refine .ite (scanDocumentIndicator_stays.at ahead) ?_
  cases ahead with
  | nil => exact scanStreamEnd_staysAt
  | cons c cs =>
    apply Stays.at
    refine .ite ?_ (.ite ?_ (.ite ?_ (.ite ?_ (.ite ?_ (.ite ?_ (.ite ?_ (.ite ?_ (.ite ?_ (.ite ?_
      (.ite ?_ (.ite ?_ (.ite ?_ (.ite ?_ (.ite ?_ ?_))))))))))))))
    · refine .bind closeBlocks_stays fun _ _ => ?_
      refine .bind dropKey_stays fun _ _ => ?_
      exact .bind allowKey_stays fun _ _ => scanDirective_stays
    · exact scanFlowStart_stays
    · exact scanFlowStart_stays
    · exact scanFlowEnd_stays
    · exact scanFlowEnd_stays
    · exact scanFlowEntry_stays
    · exact scanBlockEntry_stays
    · exact scanKeyIndicator_stays
    · exact scanValueIndicator_stays
    · exact scanKeyLike_stays scanName_stays
    · exact scanKeyLike_stays scanName_stays
    · exact scanKeyLike_stays scanTag_stays
    · refine .bind dropKey_stays fun _ _ => ?_
      exact .bind allowKey_stays fun _ _ => scanBlockScalar_stays
    · exact scanKeyLike_stays scanQuotedScalar_stays
    · exact scanKeyLike_stays scanPlainScalar_stays
    · exact .bind .get fun _ _ => failIn_stays

theorem scanStreamStart_stays : Stays limit scanStreamStart := by
  refine .bind look_stays.discard fun _ _ => ?_
  refine .bind (.modify fun s hs => ⟨hs.reach, hs.tokens, by simp⟩) fun _ _ => ?_
  exact .bind .get fun s hs => emit_stays hs.mark

theorem scanAll_stays : Stays limit scanAll := by
  refine .bind scanStreamStart_stays fun _ _ => ?_
  refine .bind .get fun _ _ => ?_
  refine .bind (.loop fun _ _ => ?_) fun _ _ => .pure trivial
  refine .bind .get fun _ _ => .ite (.pure trivial) ?_
  refine .bind (.modify fun _ hs => ⟨hs.reach, hs.tokens, hs.keys⟩) fun _ _ => ?_
  exact .bind scanNext_stays fun _ _ => .bind dropStaleKeys_stays fun _ _ => .pure trivial

theorem start_within (source : Source) :
    (Scanner.start source).Within (lineCount source.chars) where
  reach := by simp [Scanner.start, Mark.origin, lineCount]
  tokens := by simp [Scanner.start]
  keys := by simp [Scanner.start]

/-- Tokens and fault of a stream are on lines up to `limit`. -/
structure TokenStream.Within (limit : Nat) (s : TokenStream) : Prop where
  tokens : ∀ t ∈ s.tokens, t.Within limit
  fault : ∀ f, s.fault = some f → f.Within limit

theorem ofSource_within (source : Source) :
    (TokenStream.ofSource source).Within (lineCount source.chars) := by
  have hkept := scanAll_stays _ (start_within source)
  unfold TokenStream.ofSource
  cases hr : scanAll (Scanner.start source) with
  | ok u s =>
    rw [hr] at hkept
    exact ⟨hkept.1.tokens, by simp⟩
  | error fault s =>
    rw [hr] at hkept
    refine ⟨fun t ht => ?_, fun f hf => ?_⟩
    · obtain ⟨i, hi, rfl⟩ := Array.mem_extract_iff_getElem.mp ht
      exact hkept.1.tokens _ (Array.getElem_mem _)
    · obtain rfl := Option.some.inj hf
      exact hkept.2

end AppConfig.Yaml
