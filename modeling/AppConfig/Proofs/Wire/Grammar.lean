import AppConfig.Proofs.Wire.Reading
import Mathlib.Data.List.Induction

/-!
# AppConfig.Proofs.Wire.Grammar

The grammar of a stream of messages, and that reading follows it.

* `HeaderLine` — a line of a header, and the length that it may give (`GivesLength`).
* `Announces` — the length of a block of lines: the last one given, zero without any.
* `Message` — what stands at the front of a stream: blocks without a body, and then a body, a body
  that is cut off, a length that no buffer has, a line that is no text, or the end.

`readMessage_eq_iff` says that `readMessage` comes to what the grammar says and to nothing else.
-/

namespace AppConfig.Wire

open Text (utf8 wordBound)

/-! ## Lengths -/

/-- A line gives a length: the text in front of its first colon is `content-length`, in any case,
and the text behind it is a number of one word. White space around both does not count. -/
def GivesLength (text : List Char) (n : Nat) : Prop :=
  ∃ name value, text = name ++ ':' :: value ∧ ':' ∉ name ∧
    foldCase (Text.trim name) = "content-length".toList ∧
    Text.Numeral wordBound (Text.trim value) n

theorem contentLength?_eq_some_iff {text : List Char} {n : Nat} :
    contentLength? text = some n ↔ GivesLength text n := by
  unfold contentLength?
  constructor
  · intro h
    split at h
    · contradiction
    · rename_i name value hcut
      obtain ⟨htext, hcolon⟩ := Text.cut?_eq_some_iff.mp hcut
      split at h
      · rename_i hname
        exact ⟨name, value, htext, hcolon, hname, Text.readBelow?_eq_some_iff.mp h⟩
      · contradiction
  · rintro ⟨name, value, htext, hcolon, hname, hvalue⟩
    rw [Text.cut?_eq_some_iff.mpr ⟨htext, hcolon⟩]
    simp only [if_pos hname, Text.readBelow?_eq_some_iff.mpr hvalue]

theorem contentLength?_of_cut? {text name value : List Char}
    (h : Text.cut? ':' text = some (name, value)) :
    contentLength? text =
      if foldCase (Text.trim name) = "content-length".toList then
        Text.readBelow? wordBound (Text.trim value)
      else none := by
  simp only [contentLength?, h]

/-- White space around a line makes no difference to its length: a colon is no white space, so it
ends up around the name and around the value. -/
theorem contentLength?_surrounded {before behind : List Char} (hbefore : Text.isBlank before = true)
    (hbehind : Text.isBlank behind = true) (text : List Char) :
    contentLength? (before ++ (text ++ behind)) = contentLength? text := by
  have hfront := Text.colon_not_mem_of_isBlank hbefore
  have hback := Text.colon_not_mem_of_isBlank hbehind
  cases hcut : Text.cut? ':' text with
  | none =>
    have hwhole : Text.cut? ':' (before ++ (text ++ behind)) = none := by
      rw [Text.cut?_eq_none_iff] at hcut ⊢
      simp only [List.mem_append, not_or]
      exact ⟨hfront, hcut, hback⟩
    simp only [contentLength?, hcut, hwhole]
  | some pieces =>
    obtain ⟨name, value⟩ := pieces
    obtain ⟨rfl, hname⟩ := Text.cut?_eq_some_iff.mp hcut
    have hwhole : Text.cut? ':' (before ++ ((name ++ ':' :: value) ++ behind)) =
        some (before ++ name, value ++ behind) := by
      rw [Text.cut?_eq_some_iff]
      refine ⟨by simp, ?_⟩
      rw [List.mem_append, not_or]
      exact ⟨hfront, hname⟩
    rw [contentLength?_of_cut? hwhole, contentLength?_of_cut? hcut,
      Text.trim_append_left hbefore, Text.trim_append_right hbehind]

theorem contentLength?_trim (text : List Char) :
    contentLength? (Text.trim text) = contentLength? text := by
  obtain ⟨before, behind, hbefore, hbehind, htext⟩ := Text.exists_trim text
  conv => rhs; rw [htext]
  rw [contentLength?_surrounded hbefore hbehind]

/-! ## Header lines -/

/-- A line of a header as it is written: text that is not blank, and how the line ends. -/
structure HeaderLine where
  text : List Char
  ending : List Char
  oneLine : '\n' ∉ text
  notBlank : Text.isBlank text = false
  ended : ending = ['\n'] ∨ ending = ['\r', '\n']

def HeaderLine.bytes (l : HeaderLine) : Bytes := utf8 (l.text ++ l.ending)

def written (lines : List HeaderLine) : Bytes := lines.flatMap HeaderLine.bytes

theorem written_cons (l : HeaderLine) (lines : List HeaderLine) :
    written (l :: lines) = l.bytes ++ written lines := rfl

/-- The length that holds after a line, if `n` held before it. -/
def HeaderLine.update (n : Nat) (l : HeaderLine) : Nat := (contentLength? l.text).getD n

theorem readBlock_headerLine (l : HeaderLine) (n : Nat) (rest : Bytes) :
    readBlock n (l.bytes ++ rest) = readBlock (l.update n) rest := by
  have hblank : ¬ Text.isBlank l.text = true := by rw [l.notBlank]; exact Bool.false_ne_true
  rcases l.ended with hending | hending
  · rw [HeaderLine.bytes, hending, readBlock_line l.oneLine, if_neg hblank, contentLength?_trim]
    rfl
  · have hreturn : Text.isBlank ['\r'] = true := rfl
    have hline : '\n' ∉ l.text ++ ['\r'] := by
      rw [List.mem_append, not_or]
      exact ⟨l.oneLine, by decide⟩
    have hblank' : ¬ Text.isBlank (l.text ++ ['\r']) = true := by
      rwa [Text.isBlank_append, hreturn, Bool.and_true]
    have hsplit : l.text ++ l.ending = l.text ++ ['\r'] ++ ['\n'] := by
      rw [hending, List.append_assoc]
      rfl
    rw [HeaderLine.bytes, hsplit, readBlock_line hline, if_neg hblank',
      Text.trim_append_right hreturn, contentLength?_trim]
    rfl

theorem readBlock_written (lines : List HeaderLine) (n : Nat) (rest : Bytes) :
    readBlock n (written lines ++ rest) = readBlock (lines.foldl HeaderLine.update n) rest := by
  induction lines generalizing n with
  | nil => rfl
  | cons l lines ih =>
    rw [written_cons, List.append_assoc, readBlock_headerLine, ih, List.foldl_cons]

/-- No line of these gives a length. -/
def Silent (lines : List HeaderLine) : Prop := ∀ l ∈ lines, ∀ n, ¬ GivesLength l.text n

/-- The length that some lines announce: that of the last line that gives one, whatever stands
around it, and zero if none does. -/
inductive Announces : List HeaderLine → Nat → Prop where
  | nothing {lines : List HeaderLine} : Silent lines → Announces lines 0
  | last {before behind : List HeaderLine} {line : HeaderLine} {n : Nat} :
      GivesLength line.text n → Silent behind → Announces (before ++ line :: behind) n

theorem Silent.foldl_update {lines : List HeaderLine} (h : Silent lines) (n : Nat) :
    lines.foldl HeaderLine.update n = n := by
  induction lines with
  | nil => rfl
  | cons l lines ih =>
    have hnone : contentLength? l.text = none := by
      rw [Option.eq_none_iff_forall_ne_some]
      intro m hm
      exact h l List.mem_cons_self m (contentLength?_eq_some_iff.mp hm)
    rw [List.foldl_cons, HeaderLine.update, hnone, Option.getD_none]
    exact ih fun l' hl' => h l' (List.mem_cons_of_mem l hl')

theorem Announces.foldl_update {lines : List HeaderLine} {n : Nat} (h : Announces lines n) :
    lines.foldl HeaderLine.update 0 = n := by
  cases h with
  | nothing hsilent => exact hsilent.foldl_update 0
  | last hgives hsilent =>
    rw [List.foldl_append, List.foldl_cons, HeaderLine.update,
      contentLength?_eq_some_iff.mpr hgives, Option.getD_some, hsilent.foldl_update]

theorem Announces.unique {lines : List HeaderLine} {n m : Nat} (h : Announces lines n)
    (h' : Announces lines m) : n = m := by
  rw [← h.foldl_update, ← h'.foldl_update]

theorem Silent.snoc {lines : List HeaderLine} {l : HeaderLine} (h : Silent lines)
    (hl : ∀ n, ¬ GivesLength l.text n) : Silent (lines ++ [l]) := by
  intro l' hl'
  rcases List.mem_append.mp hl' with hl' | hl'
  · exact h l' hl'
  · rw [List.mem_singleton.mp hl']
    exact hl

theorem Announces.snoc {lines : List HeaderLine} {l : HeaderLine} {n : Nat}
    (h : Announces lines n) (hl : ∀ m, ¬ GivesLength l.text m) : Announces (lines ++ [l]) n := by
  cases h with
  | nothing hsilent => exact .nothing (hsilent.snoc hl)
  | last hgives hsilent =>
    rw [List.append_assoc, List.cons_append]
    exact .last hgives (hsilent.snoc hl)

theorem exists_announces (lines : List HeaderLine) : ∃ n, Announces lines n := by
  -- the last line decides if it gives a length, and else what stands in front of it
  induction lines using List.reverseRecOn with
  | nil => exact ⟨0, .nothing (by intro l hl; contradiction)⟩
  | append_singleton lines l ih =>
    cases hlength : contentLength? l.text with
    | some n =>
      refine ⟨n, .last (contentLength?_eq_some_iff.mp hlength) ?_⟩
      intro l' hl'
      contradiction
    | none =>
      obtain ⟨n, hn⟩ := ih
      refine ⟨n, hn.snoc fun m hm => ?_⟩
      rw [contentLength?_eq_some_iff.mpr hm] at hlength
      contradiction

/-! ## What follows the header lines -/

/-- The first line of some bytes, with its line feed if it has one, and the bytes behind it. -/
inductive FirstLine : Bytes → Bytes → Bytes → Prop where
  | fed {line rest : Bytes} : 0x0A ∉ line → FirstLine (line ++ 0x0A :: rest) (line ++ [0x0A]) rest
  | last {line : Bytes} : 0x0A ∉ line → line ≠ [] → FirstLine line line []

theorem exists_firstLine {bytes : Bytes} (h : bytes ≠ []) :
    ∃ line rest, FirstLine bytes line rest := by
  cases hcut : Text.cut? 0x0A bytes with
  | none => exact ⟨bytes, [], .last (Text.cut?_eq_none_iff.mp hcut) h⟩
  | some pieces =>
    obtain ⟨rfl, hline⟩ := Text.cut?_eq_some_iff.mp hcut
    exact ⟨_, _, .fed hline⟩

namespace FirstLine

variable {bytes line rest : Bytes}

theorem takeLine_eq (h : FirstLine bytes line rest) : takeLine bytes = (line, rest) := by
  cases h with
  | fed hline => exact takeLine_append hline _
  | last hline => exact takeLine_of_not_mem hline

theorem eq_append (h : FirstLine bytes line rest) : bytes = line ++ rest := by
  cases h with
  | fed => simp
  | last => simp

theorem ne_nil (h : FirstLine bytes line rest) : line ≠ [] := by
  cases h with
  | fed => simp
  | last _ hne => exact hne

theorem length_lt (h : FirstLine bytes line rest) : rest.length < bytes.length := by
  have hline := List.length_pos_iff.mpr h.ne_nil
  rw [h.eq_append, List.length_append]
  omega

theorem readBlock_eq (h : FirstLine bytes line rest) (n : Nat) :
    readBlock n bytes =
      match Text.utf8? line with
      | none => .notText ((Text.utf8Fault? line).getD ⟨0, none⟩) rest
      | some text =>
        if Text.isBlank text then .blank n rest
        else readBlock ((contentLength? (Text.trim text)).getD n) rest := by
  obtain ⟨b, bs, hcons⟩ : ∃ b bs, bytes = b :: bs := by
    apply List.exists_cons_of_ne_nil
    rw [h.eq_append]
    exact List.append_ne_nil_of_left_ne_nil h.ne_nil rest
  rw [hcons, readBlock, ← hcons]
  cases htext : Text.utf8? line with
  | none => simp only [h.takeLine_eq, htext]
  | some text => simp only [h.takeLine_eq, htext]

end FirstLine

/-- A blank line in front of `rest`, ended by a line feed or by the end of the stream. -/
def BlankLine (bytes rest : Bytes) : Prop :=
  ∃ space, Text.isBlank space = true ∧ FirstLine bytes (utf8 space) rest

theorem blankLine_append {space : List Char} (h : Text.isBlank space = true) (hline : '\n' ∉ space)
    (rest : Bytes) : BlankLine (utf8 (space ++ ['\n']) ++ rest) rest := by
  have hfeed : utf8 ['\n'] = [0x0A] := rfl
  have hwhite : Text.isBlank ['\n'] = true := rfl
  refine ⟨space ++ ['\n'], by rw [Text.isBlank_append, h, hwhite]; rfl, ?_⟩
  rw [Text.utf8_append, hfeed, List.append_assoc, List.singleton_append]
  exact .fed (Text.lineFeed_not_mem_utf8 hline)

theorem BlankLine.readBlock_eq {bytes rest : Bytes} (h : BlankLine bytes rest) (n : Nat) :
    readBlock n bytes = .blank n rest := by
  obtain ⟨space, hblank, hfirst⟩ := h
  simp only [hfirst.readBlock_eq, Text.utf8?_utf8, if_pos hblank]

/-- Header lines and the blank line behind them. -/
structure HeaderBlock where
  lines : List HeaderLine
  space : List Char
  blank : Text.isBlank space = true
  oneLine : '\n' ∉ space

def HeaderBlock.bytes (b : HeaderBlock) : Bytes := written b.lines ++ utf8 (b.space ++ ['\n'])

theorem HeaderBlock.exists_blankLine (b : HeaderBlock) (rest : Bytes) :
    ∃ tail, b.bytes ++ rest = written b.lines ++ tail ∧ BlankLine tail rest :=
  ⟨utf8 (b.space ++ ['\n']) ++ rest, List.append_assoc _ _ _, blankLine_append b.blank b.oneLine rest⟩

/-- A last line that is not blank and has no line feed, or no line at all. -/
structure Unended (text : List Char) : Prop where
  oneLine : '\n' ∉ text
  notBlank : text ≠ [] → Text.isBlank text = false

theorem Unended.readBlock_eq {text : List Char} (h : Unended text) (n : Nat) :
    readBlock n (utf8 text) = .ended := by
  by_cases hne : text = []
  · rw [hne, Text.utf8_nil, readBlock_nil]
  · rw [readBlock_last h.oneLine hne, h.notBlank hne]
    rfl

/-! ## Messages -/

/-- What stands at the front of a stream, and the bytes behind it. -/
inductive Message : Bytes → Reading × Bytes → Prop where
  /-- A block without a body is passed over. -/
  | passed {lines : List HeaderLine} {tail rest : Bytes} {out : Reading × Bytes} :
      Announces lines 0 → BlankLine tail rest → Message rest out →
      Message (written lines ++ tail) out
  | body {lines : List HeaderLine} {n : Nat} {tail rest : Bytes} :
      Announces lines n → 0 < n → n < bufferBound → BlankLine tail rest → n ≤ rest.length →
      Message (written lines ++ tail) (.body (Text.utf8Lossy (rest.take n)), rest.drop n)
  /-- The stream ends inside a body. -/
  | cutOff {lines : List HeaderLine} {n : Nat} {tail rest : Bytes} :
      Announces lines n → n < bufferBound → BlankLine tail rest → rest.length < n →
      Message (written lines ++ tail) (.fault .earlyEnd, [])
  /-- No buffer has the length announced, so no byte of the body is read. -/
  | tooLong {lines : List HeaderLine} {n : Nat} {tail rest : Bytes} :
      Announces lines n → bufferBound ≤ n → BlankLine tail rest →
      Message (written lines ++ tail) (.overflow, rest)
  | notText {lines : List HeaderLine} {tail line rest : Bytes} {fault : Text.Utf8Fault} :
      FirstLine tail line rest → ¬ Text.IsText line → Text.utf8Fault? line = some fault →
      Message (written lines ++ tail) (.fault (.notText fault), rest)
  /-- The stream ends before a blank line comes. -/
  | ended {lines : List HeaderLine} {text : List Char} :
      Unended text → Message (written lines ++ utf8 text) (.ended, [])

theorem Message.readMessage_eq {input : Bytes} {out : Reading × Bytes} (h : Message input out) :
    readMessage input = out := by
  induction h with
  | passed hannounced hblank _ ih =>
    rw [readMessage_of_blank ((readBlock_written _ 0 _).trans (hblank.readBlock_eq _)),
      hannounced.foldl_update, if_pos rfl, ih]
  | body hannounced hpos hsmall hblank hlong =>
    rw [readMessage_of_blank ((readBlock_written _ 0 _).trans (hblank.readBlock_eq _)),
      hannounced.foldl_update, if_neg (by omega), if_neg (by omega), if_neg (by omega)]
  | cutOff hannounced hsmall hblank hshort =>
    rw [readMessage_of_blank ((readBlock_written _ 0 _).trans (hblank.readBlock_eq _)),
      hannounced.foldl_update, if_neg (by omega), if_neg (by omega), if_pos hshort]
  | tooLong hannounced hlarge hblank =>
    have hne := Nat.ne_of_gt (Nat.lt_of_lt_of_le bufferBound_pos hlarge)
    rw [readMessage_of_blank ((readBlock_written _ 0 _).trans (hblank.readBlock_eq _)),
      hannounced.foldl_update, if_neg hne, if_pos hlarge]
  | notText hfirst htext hfault =>
    refine readMessage_of_notText ((readBlock_written _ 0 _).trans ?_)
    rw [hfirst.readBlock_eq, Text.utf8?_eq_none_iff.mpr htext, hfault, Option.getD_some]
  | ended hunended =>
    exact readMessage_of_ended ((readBlock_written _ 0 _).trans (hunended.readBlock_eq _))

/-- What can follow the header lines of a stream. -/
inductive Tail : Bytes → Prop where
  | blank {tail rest : Bytes} : BlankLine tail rest → Tail tail
  | notText {tail line rest : Bytes} : FirstLine tail line rest → ¬ Text.IsText line → Tail tail
  | unended {text : List Char} : Unended text → Tail (utf8 text)

/-- A first line of text that is not blank is a header line, unless the stream ends with it. -/
theorem FirstLine.headerLine_or_unended {bytes rest : Bytes} {text : List Char}
    (h : FirstLine bytes (utf8 text) rest) (hblank : Text.isBlank text = false) :
    (∃ l : HeaderLine, bytes = l.bytes ++ rest) ∨ (bytes = utf8 text ∧ Unended text) := by
  generalize hbytes : utf8 text = line at h
  cases h with
  | last hline =>
    subst hbytes
    exact .inr ⟨rfl, fun hm => hline (Text.lineFeed_mem_utf8 hm), fun _ => hblank⟩
  | fed hline =>
    obtain ⟨body, rfl, rfl⟩ := Text.eq_append_of_utf8_eq_append hbytes
    have hwhite : Text.isBlank ['\n'] = true := rfl
    rw [Text.isBlank_append, hwhite, Bool.and_true] at hblank
    have hfeed : utf8 ['\n'] = [0x0A] := rfl
    left
    refine ⟨⟨body, ['\n'], fun hm => hline (Text.lineFeed_mem_utf8 hm), hblank, .inl rfl⟩, ?_⟩
    rw [HeaderLine.bytes, Text.utf8_append, hfeed, List.append_assoc, List.singleton_append]

/-- Every stream begins with header lines, and something that ends them. -/
theorem exists_written (input : Bytes) :
    ∃ lines tail, input = written lines ++ tail ∧ Tail tail := by
  induction hlength : input.length using Nat.strongRecOn generalizing input with
  | ind k ih =>
    by_cases hne : input = []
    · have hunended : Unended [] := ⟨List.not_mem_nil, fun h => absurd rfl h⟩
      exact ⟨[], [], hne, .unended hunended⟩
    · obtain ⟨line, rest, hfirst⟩ := exists_firstLine hne
      by_cases htext : Text.IsText line
      · obtain ⟨text, rfl⟩ := htext
        cases hblank : Text.isBlank text with
        | true => exact ⟨[], input, rfl, .blank ⟨text, hblank, hfirst⟩⟩
        | false =>
          have hlt := hfirst.length_lt
          obtain ⟨l, rfl⟩ | ⟨rfl, hunended⟩ := hfirst.headerLine_or_unended hblank
          · obtain ⟨lines, tail, rfl, htail⟩ := ih rest.length (by omega) rest rfl
            refine ⟨l :: lines, tail, ?_, htail⟩
            rw [written_cons, List.append_assoc]
          · exact ⟨[], utf8 text, rfl, .unended hunended⟩
      · exact ⟨[], input, rfl, .notText hfirst htext⟩

/-- The grammar leaves no stream out. -/
theorem exists_message (input : Bytes) : ∃ out, Message input out := by
  -- by strong induction: a block without a body leaves a shorter stream
  induction hlength : input.length using Nat.strongRecOn generalizing input with
  | ind k ih =>
    obtain ⟨lines, tail, rfl, htail⟩ := exists_written input
    obtain ⟨n, hn⟩ := exists_announces lines
    cases htail with
    | @blank _ rest hblank =>
      rcases Nat.eq_zero_or_pos n with rfl | hpos
      · have hlt : rest.length < tail.length := by
          obtain ⟨_, -, hfirst⟩ := hblank
          exact hfirst.length_lt
        rw [List.length_append] at hlength
        obtain ⟨out, hout⟩ := ih rest.length (by omega) rest rfl
        exact ⟨out, .passed hn hblank hout⟩
      · rcases Nat.lt_or_ge n bufferBound with hsmall | hlarge
        · by_cases hlong : n ≤ rest.length
          · exact ⟨_, .body hn hpos hsmall hblank hlong⟩
          · exact ⟨_, .cutOff hn hsmall hblank (by omega)⟩
        · exact ⟨_, .tooLong hn hlarge hblank⟩
    | notText hfirst htext =>
      obtain ⟨fault, hfault⟩ := Text.exists_utf8FaultFrom 0 (Text.utf8?_eq_none_iff.mpr htext)
      exact ⟨_, .notText hfirst htext hfault⟩
    | unended hunended => exact ⟨_, .ended hunended⟩

theorem readMessage_eq_iff {input : Bytes} {out : Reading × Bytes} :
    readMessage input = out ↔ Message input out := by
  constructor
  · rintro rfl
    obtain ⟨out, hout⟩ := exists_message input
    rwa [hout.readMessage_eq]
  · exact Message.readMessage_eq

/-- **The header grammar.** A block of header lines announces one length: that of the last line that
gives one, zero without any. A block that announces nothing is passed over; otherwise so many bytes
behind it are the body, decoded leniently, and the next call goes on behind them, unless the stream
is shorter. If no buffer has the length announced, reading overflows right behind the block. Behind
any header lines, a line that is no text is a fault, and a stream that ends before a blank line has
come is over. There are no other streams. -/
theorem reads_header_grammar :
    (∀ lines, ∃! n, Announces lines n) ∧
    (∀ (block : HeaderBlock) (n : Nat) (rest : Bytes), Announces block.lines n →
      (n = 0 → readMessage (block.bytes ++ rest) = readMessage rest) ∧
      (0 < n → n < bufferBound → n ≤ rest.length →
        readMessage (block.bytes ++ rest) =
          (.body (Text.utf8Lossy (rest.take n)), rest.drop n)) ∧
      (n < bufferBound → rest.length < n →
        readMessage (block.bytes ++ rest) = (.fault .earlyEnd, [])) ∧
      (bufferBound ≤ n → readMessage (block.bytes ++ rest) = (.overflow, rest))) ∧
    (∀ lines tail line rest, FirstLine tail line rest → ¬ Text.IsText line →
      ∃ fault, readMessage (written lines ++ tail) = (.fault (.notText fault), rest)) ∧
    (∀ lines text, Unended text → readMessage (written lines ++ utf8 text) = (.ended, [])) ∧
    ∀ input out, readMessage input = out ↔ Message input out := by
  refine ⟨?_, ?_, ?_, ?_, fun _ _ => readMessage_eq_iff⟩
  · intro lines
    obtain ⟨n, hn⟩ := exists_announces lines
    exact ⟨n, hn, fun m hm => hm.unique hn⟩
  · intro block n rest hn
    obtain ⟨tail, hbytes, hblank⟩ := block.exists_blankLine rest
    rw [hbytes]
    refine ⟨?_, ?_, ?_, ?_⟩
    · rintro rfl
      exact (Message.passed hn hblank (readMessage_eq_iff.mp rfl)).readMessage_eq
    · intro hpos hsmall hlong
      exact (Message.body hn hpos hsmall hblank hlong).readMessage_eq
    · intro hsmall hshort
      exact (Message.cutOff hn hsmall hblank hshort).readMessage_eq
    · intro hlarge
      exact (Message.tooLong hn hlarge hblank).readMessage_eq
  · intro lines tail line rest hfirst htext
    obtain ⟨fault, hfault⟩ := Text.exists_utf8FaultFrom 0 (Text.utf8?_eq_none_iff.mpr htext)
    exact ⟨fault, (Message.notText hfirst htext hfault).readMessage_eq⟩
  · intro lines text hunended
    exact (Message.ended hunended).readMessage_eq

/-- Lines with both endings around one that gives a length, and a blank line that is not empty. -/
def mixedBlock : HeaderBlock where
  lines := [⟨"content-length: 9: 9".toList, ['\r', '\n'], by decide, by decide, .inr rfl⟩,
    ⟨" CONTENT-Length\u3000: +2".toList, ['\n'], by decide, by decide, .inl rfl⟩,
    ⟨"Content-Length: 18446744073709551616".toList, ['\r', '\n'], by decide, by decide, .inr rfl⟩]
  space := " \t\r".toList
  blank := by decide
  oneLine := by decide

theorem reads_header_grammar_mixedBlock :
    Announces mixedBlock.lines 2 ∧
    readMessage (mixedBlock.bytes ++ utf8 "é!".toList) = (.body "é".toList, utf8 "!".toList) := by
  have hgives : contentLength? " CONTENT-Length\u3000: +2".toList = some 2 := by decide
  have hlarge : contentLength? "Content-Length: 18446744073709551616".toList = none := by decide
  have hannounced : Announces mixedBlock.lines 2 := by
    refine @Announces.last [_] [_] _ 2 (contentLength?_eq_some_iff.mp hgives) ?_
    intro l hl n hn
    rw [List.mem_singleton.mp hl] at hn
    have := contentLength?_eq_some_iff.mpr hn
    rw [hlarge] at this
    contradiction
  obtain ⟨-, hblock, -⟩ := reads_header_grammar
  have hbody := (hblock mixedBlock 2 (utf8 "é!".toList) hannounced).2.1 (by decide) (by decide)
    (by decide)
  have htake : (utf8 "é!".toList).take 2 = utf8 "é".toList := by decide
  have hdrop : (utf8 "é!".toList).drop 2 = utf8 "!".toList := by decide
  rw [htake, hdrop, Text.utf8Lossy_utf8] at hbody
  exact ⟨hannounced, hbody⟩

/-- A block with one line. It gives the least length that no buffer has. -/
def hugeBlock : HeaderBlock where
  lines := [⟨"Content-Length: 9223372036854775808".toList, ['\r', '\n'], by decide, by decide, .inr rfl⟩]
  space := ['\r']
  blank := by decide
  oneLine := by decide

theorem announces_hugeBlock : Announces hugeBlock.lines bufferBound := by
  have hgives : contentLength? "Content-Length: 9223372036854775808".toList = some bufferBound := by
    decide
  exact @Announces.last [] [] _ _ (contentLength?_eq_some_iff.mp hgives) (by simp [Silent])

/-- A stream that is shorter than the length announced need not be an early end. -/
theorem early_end_not_always :
    ¬ ∀ (block : HeaderBlock) (n : Nat) (rest : Bytes), Announces block.lines n → rest.length < n →
      readMessage (block.bytes ++ rest) = (.fault .earlyEnd, []) := by
  intro h
  have hshort : ([] : Bytes).length < bufferBound := bufferBound_pos
  have hend := h hugeBlock bufferBound [] announces_hugeBlock hshort
  obtain ⟨tail, hbytes, hblank⟩ := hugeBlock.exists_blankLine []
  rw [hbytes, (Message.tooLong announces_hugeBlock (Nat.le_refl _) hblank).readMessage_eq] at hend
  cases hend

end AppConfig.Wire
