import AppConfig.Proofs.Wire.Reading
import Mathlib.Data.List.Basic

/-!
# AppConfig.Proofs.Wire.RoundTrip

Reading a stream of frames gives the payloads back. Frames without a payload are passed over, and
every call leaves off right behind the body that it returns, so nothing in a payload is ever taken
for a header.
-/

namespace AppConfig.Wire

open Text (utf8 wordBound)

/-- The header line in front of its number. -/
def lengthLabel : List Char := "Content-Length: ".toList

theorem lengthLabel_eq_cons : lengthLabel = 'C' :: "ontent-Length: ".toList := by decide

theorem lengthLabel_eq_append : lengthLabel = "Content-Length".toList ++ [':', ' '] := by decide

theorem toDigits_isWhite {n : Nat} {c : Char} (h : c ∈ Nat.toDigits 10 n) :
    Text.isWhite c = false :=
  Text.isWhite_of_isDigit (Nat.isDigit_of_mem_toDigits (by decide) (by decide) h)

theorem trim_toDigits (n : Nat) : Text.trim (Nat.toDigits 10 n) = Nat.toDigits 10 n := by
  refine Text.trim_eq_self ?_ ?_
  · intro c hc
    exact toDigits_isWhite (List.mem_of_mem_head? hc)
  · intro c hc
    exact toDigits_isWhite (List.mem_of_getLast? hc)

theorem trim_lengthLabel (n : Nat) :
    Text.trim (lengthLabel ++ Nat.toDigits 10 n) = lengthLabel ++ Nat.toDigits 10 n := by
  refine Text.trim_eq_self ?_ ?_
  · intro c hc
    rw [lengthLabel_eq_cons] at hc
    cases hc
    rfl
  · intro c hc
    rw [List.getLast?_append_of_ne_nil _ Nat.toDigits_ne_nil] at hc
    exact toDigits_isWhite (List.mem_of_getLast? hc)

/-- The length that a header announces is the length that is read from it. -/
theorem contentLength?_header {n : Nat} (h : n < wordBound) :
    contentLength? (lengthLabel ++ Nat.toDigits 10 n) = some n := by
  have hcut : Text.cut? ':' (lengthLabel ++ Nat.toDigits 10 n) =
      some ("Content-Length".toList, ' ' :: Nat.toDigits 10 n) := by
    rw [lengthLabel_eq_append, List.append_assoc]
    exact Text.cut?_append (by decide) _
  have hname : foldCase (Text.trim "Content-Length".toList) = "content-length".toList := by decide
  have hvalue : Text.trim (' ' :: Nat.toDigits 10 n) = Nat.toDigits 10 n := by
    have := Text.trim_append_left (show Text.isBlank [' '] = true from rfl) (Nat.toDigits 10 n)
    rwa [trim_toDigits] at this
  simp only [contentLength?, hcut, hname, if_true, hvalue, Text.readBelow?_toDigits h]

/-- The line of a header that gives the length, without its line feed. -/
def lengthLine (n : Nat) : List Char := lengthLabel ++ Nat.toDigits 10 n ++ ['\r']

theorem lengthLine_eq_cons (n : Nat) :
    lengthLine n = 'C' :: ("ontent-Length: ".toList ++ Nat.toDigits 10 n ++ ['\r']) := by
  rw [lengthLine, lengthLabel_eq_cons]
  rfl

theorem lineFeed_not_mem_lengthLine (n : Nat) : '\n' ∉ lengthLine n := by
  have hdigits : '\n' ∉ Nat.toDigits 10 n := by
    intro hm
    have := toDigits_isWhite hm
    simp [Text.isWhite] at this
  have hlabel : '\n' ∉ lengthLabel := by decide
  simp [lengthLine, hlabel, hdigits]

/-- A header is its line and a blank one. -/
theorem header_eq_lines (n : Nat) :
    header n = (lengthLine n ++ ['\n']) ++ (['\r'] ++ ['\n']) := by
  change lengthLabel ++ Nat.toDigits 10 n ++ ['\r', '\n', '\r', '\n'] = _
  simp only [lengthLine, List.append_assoc, List.cons_append, List.nil_append]

/-- The line of a header sets the length, and the block goes on. -/
theorem readBlock_lengthLine {n : Nat} (h : n < wordBound) (m : Nat) (rest : Bytes) :
    readBlock m (utf8 (lengthLine n ++ ['\n']) ++ rest) = readBlock n rest := by
  have hblank : ¬ Text.isBlank (lengthLine n) = true := by
    rw [lengthLine_eq_cons, Bool.not_eq_true]
    exact Text.isBlank_eq_false List.mem_cons_self rfl
  have htrim : Text.trim (lengthLine n) = lengthLabel ++ Nat.toDigits 10 n := by
    rw [lengthLine, Text.trim_append_right (show Text.isBlank ['\r'] = true from rfl),
      trim_lengthLabel]
  rw [readBlock_line (lineFeed_not_mem_lengthLine n), if_neg hblank, htrim,
    contentLength?_header h, Option.getD_some]

theorem readBlock_header {n : Nat} (h : n < wordBound) (rest : Bytes) :
    readBlock 0 (utf8 (header n) ++ rest) = .blank n rest := by
  rw [header_eq_lines, Text.utf8_append, List.append_assoc, readBlock_lengthLine h,
    readBlock_line (by decide), if_pos (show Text.isBlank ['\r'] = true from rfl)]

theorem lt_wordBound_of_lt {n : Nat} (h : n < bufferBound) : n < wordBound :=
  Nat.lt_of_lt_of_le h (by decide)

/-- A frame is read back, and what stands behind it is left; an empty one is passed over. -/
theorem readMessage_frame {payload : List Char} (h : (utf8 payload).length < bufferBound)
    (rest : Bytes) :
    readMessage (frame payload ++ rest) =
      if payload = [] then readMessage rest else (.body payload, rest) := by
  have hblock : readBlock 0 (frame payload ++ rest) =
      .blank (utf8 payload).length (utf8 payload ++ rest) := by
    rw [frame, List.append_assoc]
    exact readBlock_header (lt_wordBound_of_lt h) _
  rw [readMessage_of_blank hblock]
  cases payload with
  | nil => rfl
  | cons c cs =>
    have hne : (utf8 (c :: cs)).length ≠ 0 := by simp
    have hle : ¬ (utf8 (c :: cs) ++ rest).length < (utf8 (c :: cs)).length := by simp
    rw [if_neg hne, if_neg (Nat.not_le.mpr h), if_neg hle, if_neg (List.cons_ne_nil c cs),
      List.take_left, List.drop_left, Text.utf8Lossy_utf8]

/-! ## Streams of frames -/

/-- The answers on the frames of some payloads: each payload that is not empty, with the frames
behind it left, and then the end. -/
def answers : List (List Char) → List (Reading × Bytes)
  | [] => [(.ended, [])]
  | p :: ps => if p = [] then answers ps else (.body p, ps.flatMap frame) :: answers ps

theorem answers_map_fst (payloads : List (List Char)) :
    (answers payloads).map (·.1) = (payloads.filter (· ≠ [])).map .body ++ [.ended] := by
  induction payloads with
  | nil => rfl
  | cons p ps ih =>
    by_cases hp : p = []
    · simp [answers, hp, ih]
    · simp [answers, hp, ih]

theorem answers_length_le (payloads : List (List Char)) :
    (answers payloads).length ≤ (payloads.flatMap frame).length + 1 := by
  induction payloads with
  | nil => simp [answers]
  | cons p ps ih =>
    have hframe : 0 < (frame p).length := by
      rw [frame, header_eq_lines, List.length_append, Text.utf8_append, List.length_append,
        show (utf8 (['\r'] ++ ['\n'])).length = 2 from rfl]
      omega
    rw [List.flatMap_cons, List.length_append, answers]
    split
    · omega
    · rw [List.length_cons]
      omega

theorem calls_frames {payloads : List (List Char)}
    (h : ∀ p ∈ payloads, (utf8 p).length < bufferBound) :
    Calls (payloads.flatMap frame) (answers payloads) := by
  induction payloads with
  | nil => exact .stop readMessage_nil (by simp)
  | cons p ps ih =>
    have ih := ih fun q hq => h q (List.mem_cons_of_mem _ hq)
    have hread := readMessage_frame (h p List.mem_cons_self) (ps.flatMap frame)
    rw [List.flatMap_cons, answers]
    split
    · rename_i hp
      rw [if_pos hp] at hread
      exact ih.congr hread
    · rename_i hp
      rw [if_neg hp] at hread
      exact .next hread ih

/-- **Framing round trip.** Reading the frames of any payloads, one call after the other, returns
those that are not empty, unchanged and in order, and then the end of the stream. Each call leaves
off at the first byte behind the body it returned. A buffer can have the length in bytes of each
payload, as every text in memory stands in one. -/
theorem read_frames {payloads : List (List Char)}
    (h : ∀ p ∈ payloads, (utf8 p).length < bufferBound) :
    Calls (payloads.flatMap frame) (answers payloads) ∧
    readMessages (payloads.flatMap frame) =
      (payloads.filter (· ≠ [])).map .body ++ [.ended] := by
  have hcalls := calls_frames h
  refine ⟨hcalls, ?_⟩
  rw [readMessages, hcalls.readUpTo_eq _ (answers_length_le payloads), answers_map_fst]

/-- A payload that looks like a header, an empty one, and one with wide characters. -/
theorem read_frames_lookalike :
    (∀ p ∈ ["Content-Length: 9\r\n\r\n".toList, [], "日本\n".toList],
      (utf8 p).length < bufferBound) ∧
    Calls (["Content-Length: 9\r\n\r\n".toList, [], "日本\n".toList].flatMap frame)
      [(.body "Content-Length: 9\r\n\r\n".toList, frame [] ++ frame "日本\n".toList),
        (.body "日本\n".toList, []), (.ended, [])] ∧
    readMessages (["Content-Length: 9\r\n\r\n".toList, [], "日本\n".toList].flatMap frame) =
      [.body "Content-Length: 9\r\n\r\n".toList, .body "日本\n".toList, .ended] := by
  have hlen : ∀ p ∈ ["Content-Length: 9\r\n\r\n".toList, [], "日本\n".toList],
      (utf8 p).length < bufferBound := by decide
  obtain ⟨hcalls, hall⟩ := read_frames hlen
  refine ⟨hlen, ?_, hall⟩
  simpa [answers] using hcalls

end AppConfig.Wire
