import AppConfig.Proofs.Wire.RoundTrip

/-!
# AppConfig.Proofs.Wire.Cut

A stream of frames that is cut off anywhere. The frames in front of the cut are read back as if the
stream were whole; the frame that the cut goes through gives no message.

* `readBlock_cut_header` — a cut header either ends the stream or, with the carriage return of its
  blank line already there, announces a body of which no byte has come.
* `readMessage_cut_frame` — a cut frame ends the stream, in order or early.
-/

namespace AppConfig.Wire

open Text (utf8 wordBound)

/-! ## A cut header -/

theorem header_ascii {n : Nat} {c : Char} (h : c ∈ header n) : c.toNat < 0x80 := by
  rw [header_eq_lines, lengthLine] at h
  simp only [List.mem_append, List.mem_singleton] at h
  rcases h with (((h | h) | rfl) | rfl) | rfl | rfl
  · have hlabel : lengthLabel.all (·.toNat < 0x80) = true := by decide
    simpa using List.all_eq_true.mp hlabel c h
  · have := Char.isDigit_iff_toNat.mp (Nat.isDigit_of_mem_toDigits (by decide) (by decide) h)
    simp only [Char.reduceToNat] at this
    omega
  · decide
  · decide
  · decide
  · decide

theorem header_length (n : Nat) : (header n).length = (lengthLine n).length + 3 := by
  rw [header_eq_lines]
  simp

/-- A header that is cut off. The length that its line gives is never a shorter one: either the
line feed of the line is there, and so are all digits, or the stream ends with the line. -/
theorem readBlock_cut_header {n : Nat} (h : n < wordBound) {k : Nat} (hk : k < (header n).length) :
    readBlock 0 (utf8 ((header n).take k)) = .ended ∨
      readBlock 0 (utf8 ((header n).take k)) = .blank n [] := by
  rw [header_length] at hk
  rw [header_eq_lines]
  have hcases : k ≤ (lengthLine n).length ∨ k = (lengthLine n ++ ['\n']).length ∨
      k = (lengthLine n ++ ['\n']).length + 1 := by
    simp only [List.length_append, List.length_singleton]
    omega
  rcases hcases with hline | rfl | rfl
  · -- inside the line, up to its carriage return
    left
    rw [List.append_assoc, List.take_append_of_le_length hline]
    cases k with
    | zero => exact readBlock_nil 0
    | succ k =>
      have hfeed : '\n' ∉ (lengthLine n).take (k + 1) := fun hm =>
        lineFeed_not_mem_lengthLine n (List.mem_of_mem_take hm)
      rw [lengthLine_eq_cons, List.take_succ_cons] at hfeed ⊢
      rw [readBlock_last hfeed (List.cons_ne_nil _ _), if_neg]
      rw [Bool.not_eq_true]
      exact Text.isBlank_eq_false List.mem_cons_self rfl
  · -- between the two lines
    left
    rw [List.take_left]
    have := readBlock_lengthLine h 0 []
    rwa [List.append_nil, readBlock_nil] at this
  · -- between the carriage return and the line feed of the blank line
    right
    rw [List.take_length_add_append]
    have hblank : Text.isBlank ['\r'] = true := rfl
    change readBlock 0 (utf8 ((lengthLine n ++ ['\n']) ++ ['\r'])) = _
    rw [Text.utf8_append, readBlock_lengthLine h, readBlock_last (by decide) (by decide), hblank,
      if_pos rfl]

/-! ## A cut stream -/

/-- How reading stops where a stream ends: in order, or inside a body. -/
def Stops (r : Reading) : Prop := r = .ended ∨ r = .fault .earlyEnd

theorem Stops.not_body {r : Reading} (h : Stops r) (text : List Char) : r ≠ .body text := by
  rcases h with rfl | rfl <;> nofun

/-- A frame that is cut off gives no message, and takes what is left of the stream. -/
theorem readMessage_cut_frame {payload : List Char} (h : (utf8 payload).length < bufferBound)
    {k : Nat} (hk : k < (frame payload).length) :
    ∃ stop, Stops stop ∧ readMessage ((frame payload).take k) = (stop, []) := by
  have hlen : (utf8 (header (utf8 payload).length)).length =
      (header (utf8 payload).length).length := by
    rw [Text.utf8_of_ascii fun _ => header_ascii, List.length_map]
  simp only [frame, List.length_append] at hk ⊢
  by_cases hheader : k < (header (utf8 payload).length).length
  · rw [List.take_append_of_le_length (by omega), Text.take_utf8_of_ascii fun _ => header_ascii]
    rcases readBlock_cut_header (lt_wordBound_of_lt h) hheader with hb | hb
    · exact ⟨_, .inl rfl, readMessage_of_ended hb⟩
    · rw [readMessage_of_blank hb]
      by_cases hzero : (utf8 payload).length = 0
      · exact ⟨_, .inl rfl, by rw [if_pos hzero, readMessage_nil]⟩
      · have hshort : ([] : Bytes).length < (utf8 payload).length := Nat.pos_of_ne_zero hzero
        exact ⟨_, .inr rfl, by rw [if_neg hzero, if_neg (Nat.not_le.mpr h), if_pos hshort]⟩
  · have htake : (utf8 (header (utf8 payload).length) ++ utf8 payload).take k =
        utf8 (header (utf8 payload).length) ++
          (utf8 payload).take (k - (utf8 (header (utf8 payload).length)).length) := by
      rw [List.take_append, List.take_of_length_le (by omega)]
    have hne : (utf8 payload).length ≠ 0 := by omega
    have hshort : ((utf8 payload).take
        (k - (utf8 (header (utf8 payload).length)).length)).length < (utf8 payload).length := by
      rw [List.length_take]
      omega
    rw [htake, readMessage_of_blank (readBlock_header (lt_wordBound_of_lt h) _), if_neg hne,
      if_neg (Nat.not_le.mpr h), if_pos hshort]
    exact ⟨_, .inr rfl, rfl⟩

/-- Payloads, each with the place in the stream where its frame ends, if the first frame begins
at `start`. -/
def ends (start : Nat) : List (List Char) → List (List Char × Nat)
  | [] => []
  | p :: ps => (p, start + (frame p).length) :: ends (start + (frame p).length) ps

/-- The payloads whose frames lie wholly within the first `k` bytes of the stream. -/
def whole (k : Nat) (payloads : List (List Char)) : List (List Char) :=
  ((ends 0 payloads).filter (·.2 ≤ k)).map (·.1)

theorem le_of_mem_ends {start : Nat} {payloads : List (List Char)} {e : List Char × Nat}
    (h : e ∈ ends start payloads) : start ≤ e.2 := by
  induction payloads generalizing start with
  | nil => contradiction
  | cons p ps ih =>
    rw [ends, List.mem_cons] at h
    rcases h with rfl | h
    · exact Nat.le_add_right _ _
    · have := ih h
      omega

theorem calls_cut {payloads : List (List Char)} (h : ∀ p ∈ payloads, (utf8 p).length < bufferBound)
    {k start : Nat} (hstart : start ≤ k) :
    ∃ rs stop, Calls ((payloads.flatMap frame).take (k - start)) rs ∧ Stops stop ∧
      rs.map (·.1) =
        ((((ends start payloads).filter (·.2 ≤ k)).map (·.1)).filter (· ≠ [])).map .body ++
          [stop] := by
  induction payloads generalizing start with
  | nil =>
    have hread : readMessage ((List.flatMap frame []).take (k - start)) = (.ended, []) := by
      rw [List.flatMap_nil, List.take_nil, readMessage_nil]
    exact ⟨_, .ended, .stop hread (by simp), .inl rfl, rfl⟩
  | cons p ps ih =>
    have hp := h p List.mem_cons_self
    rw [List.flatMap_cons, ends]
    by_cases hfit : start + (frame p).length ≤ k
    · -- the frame is whole: what is left of the stream is a cut stream again
      obtain ⟨rs, stop, hcalls, hstop, hmap⟩ :=
        ih (fun q hq => h q (List.mem_cons_of_mem _ hq)) hfit
      have htake : (frame p ++ ps.flatMap frame).take (k - start) =
          frame p ++ (ps.flatMap frame).take (k - (start + (frame p).length)) := by
        rw [List.take_append, List.take_of_length_le (by omega), Nat.sub_sub]
      have hread := readMessage_frame hp ((ps.flatMap frame).take (k - (start + (frame p).length)))
      rw [htake]
      by_cases hempty : p = []
      · subst hempty
        rw [if_pos rfl] at hread
        exact ⟨rs, stop, hcalls.congr hread, hstop, by simpa [hfit] using hmap⟩
      · rw [if_neg hempty] at hread
        exact ⟨_, stop, .next hread hcalls, hstop, by simpa [hfit, hempty] using hmap⟩
    · -- the cut goes through this frame, so no later one is whole either
      have hcut : k - start < (frame p).length := by omega
      obtain ⟨stop, hstop, hread⟩ := readMessage_cut_frame hp hcut
      have hnone : (ends (start + (frame p).length) ps).filter (·.2 ≤ k) = [] := by
        rw [List.filter_eq_nil_iff]
        intro e he
        have := le_of_mem_ends he
        simp only [decide_eq_true_eq]
        omega
      rw [List.take_append_of_le_length (by omega)]
      exact ⟨_, stop, .stop hread hstop.not_body, hstop, by simp [hfit, hnone]⟩

/-- **A cut stream.** However many bytes of a stream of frames are left, reading gives the payloads
whose frames are whole, those without a payload left out, and then stops: at the end of the stream,
or because a body ends early. No payload is shortened or altered, and nothing is taken for a line
that is no text. -/
theorem read_cut_frames {payloads : List (List Char)}
    (h : ∀ p ∈ payloads, (utf8 p).length < bufferBound) (k : Nat) :
    ∃ stop, Stops stop ∧
      readMessages ((payloads.flatMap frame).take k) =
        ((whole k payloads).filter (· ≠ [])).map .body ++ [stop] := by
  obtain ⟨rs, stop, hcalls, hstop, hmap⟩ := calls_cut h (Nat.zero_le k)
  exact ⟨stop, hstop, by rw [← Nat.sub_zero k, hcalls.readMessages_eq, hmap]; rfl⟩

/-- A cut after the first digit of a length of ten, and one inside a character of a body. -/
theorem read_cut_frames_twice :
    (∀ p ∈ ["é\n".toList, [], "日本語!".toList], (utf8 p).length < bufferBound) ∧
    (∃ stop, Stops stop ∧
      readMessages ((["é\n".toList, [], "日本語!".toList].flatMap frame).take 62) =
        [.body "é\n".toList, stop]) ∧
    ∃ stop, Stops stop ∧
      readMessages ((["é\n".toList, [], "日本語!".toList].flatMap frame).take 71) =
        [.body "é\n".toList, stop] := by
  have hlen : ∀ p ∈ ["é\n".toList, [], "日本語!".toList], (utf8 p).length < bufferBound := by decide
  have hdigit : (whole 62 ["é\n".toList, [], "日本語!".toList]).filter (· ≠ []) = ["é\n".toList] := by
    decide
  have hchar : (whole 71 ["é\n".toList, [], "日本語!".toList]).filter (· ≠ []) = ["é\n".toList] := by
    decide
  have hfirst := read_cut_frames hlen 62
  have hsecond := read_cut_frames hlen 71
  rw [hdigit] at hfirst
  rw [hchar] at hsecond
  exact ⟨hlen, hfirst, hsecond⟩

end AppConfig.Wire
