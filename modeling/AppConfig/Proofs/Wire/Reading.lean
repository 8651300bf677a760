import AppConfig.Proofs.Text.Pieces
import AppConfig.Proofs.Text.Utf8
import AppConfig.Wire.Frame

/-!
# AppConfig.Proofs.Wire.Reading

How a stream is read: line by line up to a blank line (`readBlock_line`), then a body of the length
that the lines gave (`readMessage_of_blank`), and so on, call after call (`Calls`).
-/

namespace AppConfig.Wire

open Text (utf8)

theorem takeLine_append {line : Bytes} (h : 0x0A ∉ line) (rest : Bytes) :
    takeLine (line ++ 0x0A :: rest) = (line ++ [0x0A], rest) := by
  induction line with
  | nil => simp [takeLine]
  | cons b bs ih =>
    rw [List.mem_cons, not_or] at h
    rw [List.cons_append, takeLine, if_neg (Ne.symm h.1), ih h.2]
    rfl

theorem takeLine_of_not_mem {line : Bytes} (h : 0x0A ∉ line) : takeLine line = (line, []) := by
  induction line with
  | nil => rfl
  | cons b bs ih =>
    rw [List.mem_cons, not_or] at h
    rw [takeLine, if_neg (Ne.symm h.1), ih h.2]

theorem readBlock_nil (n : Nat) : readBlock n [] = .ended := by
  rw [readBlock]

/-- A line of text ends the block if it is blank; otherwise it may give the length. -/
theorem readBlock_line {line : List Char} (h : '\n' ∉ line) (n : Nat) (rest : Bytes) :
    readBlock n (utf8 (line ++ ['\n']) ++ rest) =
      if Text.isBlank line then .blank n rest
      else readBlock ((contentLength? (Text.trim line)).getD n) rest := by
  have hfeed : utf8 ['\n'] = [0x0A] := rfl
  have hbytes : utf8 (line ++ ['\n']) ++ rest = utf8 line ++ 0x0A :: rest := by
    rw [Text.utf8_append, hfeed, List.append_assoc, List.singleton_append]
  have htake := takeLine_append (Text.lineFeed_not_mem_utf8 h) rest
  have htext : Text.utf8? (utf8 line ++ [0x0A]) = some (line ++ ['\n']) := by
    rw [← hfeed, ← Text.utf8_append, Text.utf8?_utf8]
  have hwhite : Text.isBlank ['\n'] = true := rfl
  have hblank : Text.isBlank (line ++ ['\n']) = Text.isBlank line := by
    rw [Text.isBlank_append, hwhite, Bool.and_true]
  have htrim : Text.trim (line ++ ['\n']) = Text.trim line :=
    Text.trim_append_right hwhite line
  obtain ⟨b, bs, hcons⟩ : ∃ b bs, utf8 line ++ 0x0A :: rest = b :: bs :=
    List.exists_cons_of_ne_nil (by simp)
  rw [hbytes, hcons, readBlock, ← hcons, htake]
  simp only [htext, hblank, htrim]

theorem readBlock_last {line : List Char} (h : '\n' ∉ line) (hne : line ≠ []) (n : Nat) :
    readBlock n (utf8 line) = if Text.isBlank line then .blank n [] else .ended := by
  have htake := takeLine_of_not_mem (Text.lineFeed_not_mem_utf8 h)
  obtain ⟨b, bs, hcons⟩ : ∃ b bs, utf8 line = b :: bs :=
    List.exists_cons_of_ne_nil (by simpa using hne)
  rw [hcons, readBlock, ← hcons, htake]
  simp only [Text.utf8?_utf8, readBlock_nil]

theorem readMessage_nil : readMessage [] = (.ended, []) := by
  rw [readMessage]

/-- A call reads one block of header lines; what it returns hangs on how the block ends. -/
theorem readMessage_eq (input : Bytes) :
    readMessage input =
      match readBlock 0 input with
      | .ended => (.ended, [])
      | .notText fault rest => (.fault (.notText fault), rest)
      | .blank n rest =>
        if n = 0 then readMessage rest
        else if bufferBound ≤ n then (.overflow, rest)
        else if rest.length < n then (.fault .earlyEnd, [])
        else (.body (Text.utf8Lossy (rest.take n)), rest.drop n) := by
  cases input with
  | nil => rw [readMessage_nil, readBlock_nil]
  | cons b bs =>
    rw [readMessage]
    split
    · rename_i h
      simp only [h]
    · rename_i h
      simp only [h]
    · rename_i h
      simp only [h, if_true]
    · rename_i n rest h
      simp only [h, if_neg (Nat.succ_ne_zero n)]

/-- What follows a block of header lines is a body, if it has a length at all and a buffer can have
that length. -/
theorem readMessage_of_blank {input rest : Bytes} {n : Nat} (h : readBlock 0 input = .blank n rest) :
    readMessage input =
      if n = 0 then readMessage rest
      else if bufferBound ≤ n then (.overflow, rest)
      else if rest.length < n then (.fault .earlyEnd, [])
      else (.body (Text.utf8Lossy (rest.take n)), rest.drop n) := by
  rw [readMessage_eq, h]

theorem readMessage_of_ended {input : Bytes} (h : readBlock 0 input = .ended) :
    readMessage input = (.ended, []) := by
  rw [readMessage_eq, h]

theorem readMessage_of_notText {input rest : Bytes} {fault : Text.Utf8Fault}
    (h : readBlock 0 input = .notText fault rest) :
    readMessage input = (.fault (.notText fault), rest) := by
  rw [readMessage_eq, h]

/-- A call takes at least one byte, if there is any. -/
theorem readMessage_rest_length {input : Bytes} (h : input ≠ []) :
    (readMessage input).2.length < input.length := by
  fun_induction readMessage input with
  | case1 => exact absurd rfl h
  | case2 b bs _ => simp
  | case3 b bs fault rest hb =>
    have := readBlock_rest_length 0 b bs
    simpa [hb, Block.rest] using this
  | case4 b bs rest hb ih =>
    have hlt := readBlock_rest_length 0 b bs
    rw [hb, Block.rest] at hlt
    by_cases hr : rest = []
    · simp [hr, readMessage_nil]
    · have := ih hr
      omega
  | case5 b bs n rest hb hlarge =>
    have hlt := readBlock_rest_length 0 b bs
    rwa [hb, Block.rest] at hlt
  | case6 b bs n rest hb hlarge hshort => simp
  | case7 b bs n rest hb hlarge hshort =>
    have hlt := readBlock_rest_length 0 b bs
    rw [hb, Block.rest] at hlt
    simp only [List.length_drop]
    omega

/-- The answers of one call after the other until no more messages come, each with the bytes that
it leaves to the next. -/
inductive Calls : Bytes → List (Reading × Bytes) → Prop where
  | stop {input rest : Bytes} {r : Reading} :
      readMessage input = (r, rest) → (∀ text, r ≠ .body text) → Calls input [(r, rest)]
  | next {input rest : Bytes} {text : List Char} {rs : List (Reading × Bytes)} :
      readMessage input = (.body text, rest) → Calls rest rs →
      Calls input ((.body text, rest) :: rs)

theorem Calls.congr {input input' : Bytes} {rs : List (Reading × Bytes)} (h : Calls input rs)
    (he : readMessage input' = readMessage input) : Calls input' rs := by
  cases h with
  | stop hr hstop => exact .stop (he.trans hr) hstop
  | next hr hrest => exact .next (he.trans hr) hrest

theorem Calls.readUpTo_eq {input : Bytes} {rs : List (Reading × Bytes)} (h : Calls input rs) :
    ∀ fuel, rs.length ≤ fuel → readUpTo fuel input = rs.map (·.1) := by
  induction h with
  | @stop input rest r hr hstop =>
    intro fuel hf
    match fuel, hf with
    | fuel + 1, _ =>
      rw [readUpTo, hr]
      cases r with
      | body text => exact absurd rfl (hstop text)
      | ended => rfl
      | fault why => rfl
      | overflow => rfl
  | next hr _ ih =>
    intro fuel hf
    match fuel, hf with
    | fuel + 1, hf =>
      rw [readUpTo, hr]
      simp only [List.map_cons, ih fuel (by simpa using hf)]

theorem Calls.length_le {input : Bytes} {rs : List (Reading × Bytes)} (h : Calls input rs) :
    rs.length ≤ input.length + 1 := by
  induction h with
  | stop => simp
  | @next input rest text rs hr _ ih =>
    have hne : input ≠ [] := by
      rintro rfl
      rw [readMessage_nil] at hr
      cases hr
    have hlt := readMessage_rest_length hne
    rw [hr] at hlt
    simp only [List.length_cons] at hlt ⊢
    omega

/-- The calls are as many as `readMessages` makes. -/
theorem Calls.readMessages_eq {input : Bytes} {rs : List (Reading × Bytes)} (h : Calls input rs) :
    readMessages input = rs.map (·.1) :=
  h.readUpTo_eq _ h.length_le

end AppConfig.Wire
