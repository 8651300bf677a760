import AppConfig.Proofs.Wire.Grammar
import AppConfig.Proofs.Wire.RoundTrip

/-!
# AppConfig.Proofs.Wire.Progress

Reading gets on, and loses nothing. Each turn of the reader's loops takes a line (`turn`), so a call
makes no more turns than there are bytes and one to find the end (`exists_loop`, `Loop.turns_le`), and
leaves what stands behind the bytes that it took (`Loop.exists_taken`). Calls that follow one another
take chunks that follow one another (`Calls.exists_chunks`).
-/

namespace AppConfig.Wire

open Text (utf8)

/-! ## Turns -/

/-- What one turn of the loops comes to: the call returns, or it goes on with a length for the block
and the bytes that are left. -/
inductive Turn where
  | returns (r : Reading) (rest : Bytes)
  | again (length : Nat) (rest : Bytes)
  deriving DecidableEq, Repr

def Turn.rest : Turn → Bytes
  | .returns _ rest => rest
  | .again _ rest => rest

/-- One turn of the loops takes a line, if there is one. A blank line ends the block: the next block
begins if no length was given, and otherwise a body follows, for which there may be no buffer. Any
other line may give the length. -/
def turn (length : Nat) (input : Bytes) : Turn :=
  if input = [] then .returns .ended []
  else
    let line := (takeLine input).1
    let rest := (takeLine input).2
    match Text.utf8? line with
    | none => .returns (.fault (.notText ((Text.utf8Fault? line).getD ⟨0, none⟩))) rest
    | some text =>
      if Text.isBlank text then
        if length = 0 then .again 0 rest
        else if bufferBound ≤ length then .returns .overflow rest
        else if rest.length < length then .returns (.fault .earlyEnd) []
        else .returns (.body (Text.utf8Lossy (rest.take length))) (rest.drop length)
      else .again ((contentLength? (Text.trim text)).getD length) rest

/-- What a turn does, by the line that it takes. -/
inductive Turned (n : Nat) : Bytes → Turn → Prop where
  | ended : Turned n [] (.returns .ended [])
  | notText {input line rest : Bytes} :
      FirstLine input line rest → Text.utf8? line = none →
      Turned n input (.returns (.fault (.notText ((Text.utf8Fault? line).getD ⟨0, none⟩))) rest)
  | passed {input line rest : Bytes} {text : List Char} :
      FirstLine input line rest → Text.utf8? line = some text → Text.isBlank text = true → n = 0 →
      Turned n input (.again 0 rest)
  | tooLong {input line rest : Bytes} {text : List Char} :
      FirstLine input line rest → Text.utf8? line = some text → Text.isBlank text = true →
      bufferBound ≤ n → Turned n input (.returns .overflow rest)
  | cutOff {input line rest : Bytes} {text : List Char} :
      FirstLine input line rest → Text.utf8? line = some text → Text.isBlank text = true →
      n < bufferBound → rest.length < n → Turned n input (.returns (.fault .earlyEnd) [])
  | body {input line rest : Bytes} {text : List Char} :
      FirstLine input line rest → Text.utf8? line = some text → Text.isBlank text = true →
      0 < n → n < bufferBound → n ≤ rest.length →
      Turned n input (.returns (.body (Text.utf8Lossy (rest.take n))) (rest.drop n))
  | header {input line rest : Bytes} {text : List Char} :
      FirstLine input line rest → Text.utf8? line = some text → Text.isBlank text = false →
      Turned n input (.again ((contentLength? (Text.trim text)).getD n) rest)

theorem turned (n : Nat) (input : Bytes) : Turned n input (turn n input) := by
  by_cases hne : input = []
  · subst hne
    exact .ended
  · obtain ⟨line, rest, hfirst⟩ := exists_firstLine hne
    rw [turn, if_neg hne, hfirst.takeLine_eq]
    dsimp only
    split
    · rename_i htext
      exact .notText hfirst htext
    · rename_i text htext
      split
      · rename_i hblank
        split
        · rename_i hzero
          exact .passed hfirst htext hblank hzero
        · split
          · rename_i hlarge
            exact .tooLong hfirst htext hblank hlarge
          · rename_i hsmall
            rw [Nat.not_le] at hsmall
            split
            · rename_i hshort
              exact .cutOff hfirst htext hblank hsmall hshort
            · exact .body hfirst htext hblank (by omega) hsmall (by omega)
      · rename_i hblank
        exact .header hfirst htext (Bool.not_eq_true _ ▸ hblank)

theorem turned_of_eq {n : Nat} {input : Bytes} {t : Turn} (h : turn n input = t) :
    Turned n input t := h ▸ turned n input

namespace Turned

variable {n : Nat} {input : Bytes} {t : Turn}

/-- A turn takes the front of the bytes. -/
theorem exists_taken (h : Turned n input t) : ∃ taken, input = taken ++ t.rest := by
  cases h with
  | ended => exact ⟨[], rfl⟩
  | notText hfirst => exact ⟨_, hfirst.eq_append⟩
  | passed hfirst => exact ⟨_, hfirst.eq_append⟩
  | tooLong hfirst => exact ⟨_, hfirst.eq_append⟩
  | cutOff => exact ⟨input, (List.append_nil input).symm⟩
  | @body _ line rest _ hfirst =>
    refine ⟨line ++ rest.take n, ?_⟩
    rw [Turn.rest, List.append_assoc, List.take_append_drop]
    exact hfirst.eq_append
  | header hfirst => exact ⟨_, hfirst.eq_append⟩

/-- A turn after which the loops go on has taken a line. -/
theorem length_lt {m : Nat} {rest : Bytes} (h : Turned n input (.again m rest)) :
    rest.length < input.length := by
  cases h with
  | passed hfirst => exact hfirst.length_lt
  | header hfirst => exact hfirst.length_lt

end Turned

/-- What a call returns if the loops stand in a block that has given a length so far. -/
def resume (n : Nat) (input : Bytes) : Reading × Bytes :=
  match readBlock n input with
  | .ended => (.ended, [])
  | .notText fault rest => (.fault (.notText fault), rest)
  | .blank m rest =>
    if m = 0 then readMessage rest
    else if bufferBound ≤ m then (.overflow, rest)
    else if rest.length < m then (.fault .earlyEnd, [])
    else (.body (Text.utf8Lossy (rest.take m)), rest.drop m)

theorem resume_zero (input : Bytes) : resume 0 input = readMessage input :=
  (readMessage_eq input).symm

/-- What a call returns after a turn. -/
def Turn.outcome : Turn → Reading × Bytes
  | .returns r rest => (r, rest)
  | .again m rest => resume m rest

theorem Turned.resume_eq {n : Nat} {input : Bytes} {t : Turn} (h : Turned n input t) :
    resume n input = t.outcome := by
  unfold Turn.outcome
  cases h with
  | ended => rw [resume, readBlock_nil]
  | notText hfirst htext => simp only [resume, hfirst.readBlock_eq, htext]
  | passed hfirst htext hblank hzero =>
    simp only [resume_zero]
    simp only [resume, hfirst.readBlock_eq, htext, hblank, if_true, hzero]
  | tooLong hfirst htext hblank hlarge =>
    have hne : n ≠ 0 := Nat.ne_of_gt (Nat.lt_of_lt_of_le bufferBound_pos hlarge)
    simp only [resume, hfirst.readBlock_eq, htext, hblank, if_true, if_neg hne, if_pos hlarge]
  | cutOff hfirst htext hblank hsmall hshort =>
    have hne : n ≠ 0 := by omega
    simp only [resume, hfirst.readBlock_eq, htext, hblank, if_true, if_neg hne,
      if_neg (Nat.not_le.mpr hsmall), if_pos hshort]
  | body hfirst htext hblank hpos hsmall hlong =>
    have hne : n ≠ 0 := by omega
    simp only [resume, hfirst.readBlock_eq, htext, hblank, if_true, if_neg hne,
      if_neg (Nat.not_le.mpr hsmall), if_neg (Nat.not_lt.mpr hlong)]
  | header hfirst htext hblank =>
    simp only [resume, hfirst.readBlock_eq, htext, hblank, Bool.false_eq_true, if_false]

/-! ## The loops of a call -/

/-- The loops, turn by turn, from a length for the block: how many turns they make, and what the
call returns. -/
inductive Loop : Nat → Bytes → Nat → Reading × Bytes → Prop where
  | returns {n : Nat} {input rest : Bytes} {r : Reading} :
      turn n input = .returns r rest → Loop n input 1 (r, rest)
  | again {n m k : Nat} {input rest : Bytes} {out : Reading × Bytes} :
      turn n input = .again m rest → Loop m rest k out → Loop n input (k + 1) out

theorem exists_loop (n : Nat) (input : Bytes) : ∃ k out, Loop n input k out := by
  -- by strong induction: the loops go on with fewer bytes
  induction hlength : input.length using Nat.strongRecOn generalizing n input with
  | ind k ih =>
    cases hturn : turn n input with
    | returns r rest => exact ⟨1, _, .returns hturn⟩
    | again m rest =>
      have hlt := (turned_of_eq hturn).length_lt
      obtain ⟨turns, out, hloop⟩ := ih rest.length (by omega) m rest rfl
      exact ⟨turns + 1, out, .again hturn hloop⟩

namespace Loop

variable {n k : Nat} {input : Bytes} {out : Reading × Bytes}

/-- There are no more turns than bytes, and one. -/
theorem turns_le (h : Loop n input k out) : k ≤ input.length + 1 := by
  induction h with
  | returns => omega
  | @again n m k input rest out hturn _ ih =>
    have hlt := (turned_of_eq hturn).length_lt
    omega

theorem exists_taken (h : Loop n input k out) : ∃ taken, input = taken ++ out.2 := by
  induction h with
  | returns hturn => exact (turned_of_eq hturn).exists_taken
  | again hturn _ ih =>
    obtain ⟨line, hline⟩ := (turned_of_eq hturn).exists_taken
    obtain ⟨taken, htaken⟩ := ih
    refine ⟨line ++ taken, ?_⟩
    rw [List.append_assoc, ← htaken]
    exact hline

theorem out_eq (h : Loop n input k out) : out = resume n input := by
  induction h with
  | returns hturn => exact (turned_of_eq hturn).resume_eq.symm
  | again hturn _ ih => exact ih.trans (turned_of_eq hturn).resume_eq.symm

end Loop

theorem readMessage_exists_taken (input : Bytes) :
    ∃ taken, input = taken ++ (readMessage input).2 := by
  obtain ⟨k, out, hloop⟩ := exists_loop 0 input
  rw [← resume_zero, ← hloop.out_eq]
  exact hloop.exists_taken

/-! ## What a message takes -/

theorem BlankLine.exists_space {tail rest : Bytes} (h : BlankLine tail rest) (hne : rest ≠ []) :
    ∃ space, Text.isBlank space = true ∧ '\n' ∉ space ∧ tail = utf8 (space ++ ['\n']) ++ rest := by
  obtain ⟨space, hblank, hfirst⟩ := h
  generalize hbytes : utf8 space = line at hfirst
  cases hfirst with
  | last => exact absurd rfl hne
  | fed hline =>
    obtain ⟨body, rfl, rfl⟩ := Text.eq_append_of_utf8_eq_append hbytes
    rw [Text.isBlank_append, Bool.and_eq_true] at hblank
    have hfeed : utf8 ['\n'] = [0x0A] := rfl
    refine ⟨body, hblank.1, fun hm => hline (Text.lineFeed_mem_utf8 hm), ?_⟩
    rw [Text.utf8_append, hfeed, List.append_assoc, List.singleton_append]

/-- The bytes that a call takes for a message: blocks that announce nothing, the block that
announces the body, and the body. -/
structure Envelope where
  passed : List HeaderBlock
  block : HeaderBlock
  body : Bytes
  silent : ∀ b ∈ passed, Announces b.lines 0
  announced : Announces block.lines body.length

def Envelope.bytes (e : Envelope) : Bytes :=
  e.passed.flatMap HeaderBlock.bytes ++ (e.block.bytes ++ e.body)

theorem Envelope.length_lt (e : Envelope) : e.body.length < e.bytes.length := by
  have hspace : (utf8 (e.block.space ++ ['\n'])).length ≠ 0 := by simp
  simp only [bytes, HeaderBlock.bytes, List.length_append]
  omega

theorem Envelope.length_pos (e : Envelope) : 0 < e.bytes.length :=
  Nat.zero_lt_of_lt e.length_lt

theorem Message.exists_envelope {input rest : Bytes} {text : List Char}
    (h : Message input (.body text, rest)) :
    ∃ e : Envelope, input = e.bytes ++ rest ∧ text = Text.utf8Lossy e.body := by
  generalize hout : (Reading.body text, rest) = out at h
  induction h with
  | @passed lines tail rest' out hannounced hblank hrest ih =>
    obtain ⟨e, he, htext⟩ := ih hout
    -- what is behind the block is not empty, so its blank line has a line feed
    have hne : rest' ≠ [] := by
      rw [he]
      exact List.append_ne_nil_of_left_ne_nil (List.ne_nil_of_length_pos e.length_pos) rest
    obtain ⟨space, hspace, hline, rfl⟩ := hblank.exists_space hne
    refine ⟨⟨⟨lines, space, hspace, hline⟩ :: e.passed, e.block, e.body, ?_, e.announced⟩, ?_, htext⟩
    · intro b hb
      rcases List.mem_cons.mp hb with rfl | hb
      · exact hannounced
      · exact e.silent b hb
    · rw [he]
      simp [Envelope.bytes, HeaderBlock.bytes]
  | @body lines n tail rest' hannounced hpos _ hblank hlong =>
    cases hout
    have hne : rest' ≠ [] := by
      rintro rfl
      simp at hlong
      omega
    have hlength : (rest'.take n).length = n := List.length_take_of_le hlong
    obtain ⟨space, hspace, hline, rfl⟩ := hblank.exists_space hne
    refine ⟨⟨[], ⟨lines, space, hspace, hline⟩, rest'.take n, by simp, by rwa [hlength]⟩, ?_, rfl⟩
    simp [Envelope.bytes, HeaderBlock.bytes]
  | cutOff => cases hout
  | tooLong => cases hout
  | notText => cases hout
  | ended => cases hout

/-- What a call takes before it overflows: blocks that announce nothing, and a block that announces
a length that no buffer has. -/
inductive Overlong : Bytes → Bytes → Prop where
  | block {lines : List HeaderLine} {n : Nat} {tail rest : Bytes} :
      Announces lines n → bufferBound ≤ n → BlankLine tail rest →
      Overlong (written lines ++ tail) rest
  | passed {b : HeaderBlock} {input rest : Bytes} :
      Announces b.lines 0 → Overlong input rest → Overlong (b.bytes ++ input) rest

theorem Overlong.ne_nil {input rest : Bytes} (h : Overlong input rest) : input ≠ [] := by
  cases h with
  | block _ _ hblank =>
    obtain ⟨space, -, hfirst⟩ := hblank
    have hne := hfirst.ne_nil
    rw [hfirst.eq_append]
    simp [hne]
  | @passed b => simp [HeaderBlock.bytes]

theorem Overlong.message {input rest : Bytes} (h : Overlong input rest) :
    Message input (.overflow, rest) := by
  induction h with
  | block hannounced hlarge hblank => exact .tooLong hannounced hlarge hblank
  | @passed b input rest hannounced _ ih =>
    obtain ⟨tail, hbytes, hblank⟩ := b.exists_blankLine input
    rw [hbytes]
    exact .passed hannounced hblank ih

theorem Message.overlong {input rest : Bytes} (h : Message input (.overflow, rest)) :
    Overlong input rest := by
  generalize hout : (Reading.overflow, rest) = out at h
  induction h with
  | @passed lines tail rest' out hannounced hblank _ ih =>
    have hrest := ih hout
    obtain ⟨space, hspace, hline, rfl⟩ := hblank.exists_space hrest.ne_nil
    have hpassed : Overlong ((⟨lines, space, hspace, hline⟩ : HeaderBlock).bytes ++ rest') rest :=
      .passed hannounced hrest
    rwa [HeaderBlock.bytes, List.append_assoc] at hpassed
  | body => cases hout
  | cutOff => cases hout
  | tooLong hannounced hlarge hblank =>
    cases hout
    exact .block hannounced hlarge hblank
  | notText => cases hout
  | ended => cases hout

theorem readMessage_eq_overflow_iff {input rest : Bytes} :
    readMessage input = (.overflow, rest) ↔ Overlong input rest :=
  readMessage_eq_iff.trans ⟨Message.overlong, Overlong.message⟩

/-! ## Calls -/

theorem exists_calls (input : Bytes) : ∃ rs, Calls input rs := by
  -- by strong induction: a call that returns a message leaves fewer bytes
  induction hlength : input.length using Nat.strongRecOn generalizing input with
  | ind k ih =>
    cases hread : readMessage input with
    | mk r rest =>
      cases r with
      | body text =>
        have hne : input ≠ [] := by
          rintro rfl
          rw [readMessage_nil] at hread
          cases hread
        have hlt : rest.length < input.length := by
          have := readMessage_rest_length hne
          rwa [hread] at this
        obtain ⟨rs, hcalls⟩ := ih rest.length (by omega) rest rfl
        exact ⟨_, .next hread hcalls⟩
      | ended => exact ⟨_, .stop hread nofun⟩
      | fault why => exact ⟨_, .stop hread nofun⟩
      | overflow => exact ⟨_, .stop hread nofun⟩

namespace Calls

variable {input : Bytes} {rs : List (Reading × Bytes)}

theorem unique {rs' : List (Reading × Bytes)} (h : Calls input rs) (h' : Calls input rs') :
    rs = rs' := by
  induction h generalizing rs' with
  | stop hr hstop =>
    cases h' with
    | stop hr' => rw [← hr, ← hr']
    | next hr' => exact absurd (congrArg Prod.fst (hr.symm.trans hr')) (hstop _)
  | next hr _ ih =>
    cases h' with
    | stop hr' hstop => exact absurd (congrArg Prod.fst (hr'.symm.trans hr)) (hstop _)
    | next hr' hrest' =>
      cases hr.symm.trans hr'
      rw [ih hrest']

/-- The last call, on what the others have left, gives no message. -/
theorem exists_last (h : Calls input rs) :
    ∃ before left r rest, rs = before ++ [(r, rest)] ∧ left <:+ input ∧
      readMessage left = (r, rest) ∧ ∀ text, r ≠ .body text := by
  induction h with
  | @stop input rest r hr hstop =>
    exact ⟨[], input, r, rest, rfl, List.suffix_refl input, hr, hstop⟩
  | @next input rest text rs hr _ ih =>
    obtain ⟨before, left, r, last, rfl, hleft, hread, hstop⟩ := ih
    obtain ⟨taken, htaken⟩ := readMessage_exists_taken input
    rw [hr] at htaken
    have hsuffix : rest <:+ input := ⟨taken, htaken.symm⟩
    exact ⟨(.body text, rest) :: before, left, r, last, rfl, hleft.trans hsuffix, hread, hstop⟩

/-- The chunks that the calls take stand one behind the other. -/
theorem exists_chunks (h : Calls input rs) :
    ∃ chunks : List Bytes, chunks.length = rs.length ∧
      ∀ i (hi : i < rs.length), input = (chunks.take (i + 1)).flatten ++ rs[i].2 := by
  induction h with
  | @stop input rest r hr hstop =>
    obtain ⟨taken, htaken⟩ := readMessage_exists_taken input
    rw [hr] at htaken
    refine ⟨[taken], rfl, fun i hi => ?_⟩
    obtain rfl : i = 0 := by simpa using hi
    simpa using htaken
  | @next input rest text rs hr _ ih =>
    obtain ⟨taken, htaken⟩ := readMessage_exists_taken input
    rw [hr] at htaken
    obtain ⟨chunks, hlength, hchunks⟩ := ih
    refine ⟨taken :: chunks, by simp [hlength], fun i hi => ?_⟩
    cases i with
    | zero => simpa using htaken
    | succ i =>
      have hrest := hchunks i (by simpa using hi)
      rw [List.take_succ_cons, List.flatten_cons, List.append_assoc, List.getElem_cons_succ, ← hrest]
      exact htaken

end Calls

/-- **Progress.** The loops of a call end, after no more turns than there are bytes and one, with
what the call comes to. A call takes the front of the bytes, some of them if there are any, and leaves
the others. For a body it takes more bytes than the length that it obeys: header lines that announce
this length, a blank line and the body, and any blocks without a body in front of them. It overflows
exactly if the first block that announces anything announces a length that no buffer has. Calls that
follow one another stop at the end of the stream, with a fault or with such an overflow, after no more
of them than there are bytes and one, and the chunks that they take stand one behind the other from
the first byte on. -/
theorem reading_progresses (input : Bytes) :
    (∃ turns, turns ≤ input.length + 1 ∧ Loop 0 input turns (readMessage input)) ∧
    (∀ turns out, Loop 0 input turns out → turns ≤ input.length + 1 ∧ out = readMessage input) ∧
    (∃ taken, input = taken ++ (readMessage input).2 ∧ (input ≠ [] → taken ≠ [])) ∧
    (∀ text rest, readMessage input = (.body text, rest) →
      ∃ e : Envelope, input = e.bytes ++ rest ∧ text = Text.utf8Lossy e.body ∧
        e.body.length < e.bytes.length) ∧
    (∀ rest, readMessage input = (.overflow, rest) ↔ Overlong input rest) ∧
    ∃ rs, Calls input rs ∧ (∀ rs', Calls input rs' → rs' = rs) ∧ rs.length ≤ input.length + 1 ∧
      (∃ before left r rest, rs = before ++ [(r, rest)] ∧ left <:+ input ∧
        readMessage left = (r, rest) ∧
        (r = .ended ∨ (∃ why, r = .fault why) ∨ r = .overflow ∧ Overlong left rest)) ∧
      readMessages input = rs.map (·.1) ∧
      ∃ chunks : List Bytes, chunks.length = rs.length ∧
        ∀ i (hi : i < rs.length), input = (chunks.take (i + 1)).flatten ++ rs[i].2 := by
  have hloops {turns : Nat} {out : Reading × Bytes} (h : Loop 0 input turns out) :
      turns ≤ input.length + 1 ∧ out = readMessage input :=
    ⟨h.turns_le, by rw [h.out_eq, resume_zero]⟩
  refine ⟨?_, fun _ _ => hloops, ?_, ?_, fun _ => readMessage_eq_overflow_iff, ?_⟩
  · obtain ⟨turns, out, hloop⟩ := exists_loop 0 input
    obtain ⟨hturns, rfl⟩ := hloops hloop
    exact ⟨turns, hturns, hloop⟩
  · obtain ⟨taken, htaken⟩ := readMessage_exists_taken input
    refine ⟨taken, htaken, ?_⟩
    rintro hne rfl
    have hlt := readMessage_rest_length hne
    rw [List.nil_append] at htaken
    rw [← htaken] at hlt
    exact Nat.lt_irrefl _ hlt
  · intro text rest hread
    obtain ⟨e, hinput, htext⟩ := (readMessage_eq_iff.mp hread).exists_envelope
    exact ⟨e, hinput, htext, e.length_lt⟩
  · obtain ⟨rs, hcalls⟩ := exists_calls input
    obtain ⟨before, left, r, rest, hlast, hleft, hread, hstop⟩ := hcalls.exists_last
    refine ⟨rs, hcalls, fun _ h => h.unique hcalls, hcalls.length_le,
      ⟨before, left, r, rest, hlast, hleft, hread, ?_⟩, hcalls.readMessages_eq,
      hcalls.exists_chunks⟩
    cases r with
    | body text => exact absurd rfl (hstop text)
    | ended => exact .inl rfl
    | fault why => exact .inr (.inl ⟨why, rfl⟩)
    | overflow => exact .inr (.inr ⟨rfl, readMessage_eq_overflow_iff.mp hread⟩)

/-- A block without a body, a message, and a header that is cut off. -/
theorem reading_progresses_behind_empty :
    readMessage (frame [] ++ (frame "日本".toList ++ utf8 "Content-Len".toList)) =
      (.body "日本".toList, utf8 "Content-Len".toList) ∧
    ∃ e : Envelope, e.bytes = frame [] ++ frame "日本".toList ∧
      Text.utf8Lossy e.body = "日本".toList ∧ e.body.length < e.bytes.length := by
  have hread : readMessage (frame [] ++ (frame "日本".toList ++ utf8 "Content-Len".toList)) =
      (.body "日本".toList, utf8 "Content-Len".toList) := by
    rw [readMessage_frame (by decide), if_pos rfl, readMessage_frame (by decide),
      if_neg (by decide)]
  obtain ⟨-, -, -, hbody, -⟩ := reading_progresses
    (frame [] ++ (frame "日本".toList ++ utf8 "Content-Len".toList))
  obtain ⟨e, hinput, htext, hlt⟩ := hbody _ _ hread
  rw [← List.append_assoc] at hinput
  exact ⟨hread, e, (List.append_cancel_right hinput).symm, htext.symm, hlt⟩

/-- Reading need not stop at the end of the stream or with a fault. -/
theorem stop_not_always_a_fault :
    ¬ ∀ input rs, Calls input rs →
      ∃ before r rest, rs = before ++ [(r, rest)] ∧ (r = .ended ∨ ∃ why, r = .fault why) := by
  intro h
  have hblock : Overlong (hugeBlock.bytes ++ []) [] := by
    obtain ⟨tail, hbytes, hblank⟩ := hugeBlock.exists_blankLine []
    rw [hbytes]
    exact .block announces_hugeBlock (Nat.le_refl _) hblank
  have hread := readMessage_eq_overflow_iff.mpr hblock
  obtain ⟨before, r, rest, heq, hstop⟩ := h _ _ (.stop hread nofun)
  rw [← List.nil_append [_]] at heq
  obtain ⟨-, hlast⟩ := List.append_inj' heq rfl
  cases hlast
  simp at hstop

end AppConfig.Wire
