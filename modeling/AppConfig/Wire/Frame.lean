import AppConfig.Text.Digits
import AppConfig.Text.Split
import AppConfig.Text.Utf8
import AppConfig.Text.White

/-!
# AppConfig.Wire.Frame

Messages on a byte stream: a block of header lines with the length of the body, a blank line, the
body.

* `frame` — a payload behind its header.
* `readMessage` — the next message of a stream, and the bytes behind it.
* `readMessages` — all messages of a stream.

The buffer for a body is made before the first byte of the body is read. There is none of a length
from `bufferBound` on: reading stops with `Reading.overflow` then, whatever is on the stream.
-/

namespace AppConfig.Wire

open Text (Utf8Fault)

/-- The header and the blank line in front of a body of `n` bytes. -/
def header (n : Nat) : List Char :=
  "Content-Length: ".toList ++ Nat.toDigits 10 n ++ ['\r', '\n', '\r', '\n']

/-- A payload in its frame. -/
def frame (payload : List Char) : Bytes :=
  let body := Text.utf8 payload
  Text.utf8 (header body.length) ++ body

inductive FrameFault where
  /-- The stream ends inside a body. -/
  | earlyEnd
  /-- A header line is no text. -/
  | notText (fault : Utf8Fault)
  deriving DecidableEq, Repr

namespace FrameFault

def message : FrameFault → String
  | .earlyEnd => "early eof"
  | .notText f => f.message

end FrameFault

/-- One past the largest length of a buffer. -/
def bufferBound : Nat := twoTo 63

theorem bufferBound_pos : 0 < bufferBound := by decide

/-- What reading a message gives. -/
inductive Reading where
  | body (text : List Char)
  | ended
  | fault (why : FrameFault)
  /-- There is no buffer of the length that the header announces: the reader does not return, it
  panics. -/
  | overflow
  deriving DecidableEq, Repr

/-- The first line of some bytes with its line feed, and the bytes behind it. -/
def takeLine : Bytes → Bytes × Bytes
  | [] => ([], [])
  | b :: bs =>
    if b = 0x0A then ([b], bs)
    else
      let r := takeLine bs
      (b :: r.1, r.2)

/-- ASCII letters in lower case. -/
def foldCase (cs : List Char) : List Char := cs.map Char.toLower

/-- The length that a header line gives: its name is `content-length` in any case, and its value
is a number of 64 bits; white space around both is ignored. -/
def contentLength? (line : List Char) : Option Nat :=
  match Text.cut? ':' line with
  | none => none
  | some (name, value) =>
    if foldCase (Text.trim name) = "content-length".toList then
      Text.readBelow? Text.wordBound (Text.trim value)
    else none

/-- How a block of header lines ends. -/
inductive Block where
  /-- The stream ends without a blank line. -/
  | ended
  | notText (fault : Utf8Fault) (rest : Bytes)
  /-- A blank line, with the length of the body. -/
  | blank (length : Nat) (rest : Bytes)

theorem takeLine_length (b : UInt8) (bs : Bytes) :
    (takeLine (b :: bs)).2.length < (b :: bs).length := by
  induction bs generalizing b with
  | nil =>
    unfold takeLine
    split
    · simp
    · simp [takeLine]
  | cons c cs ih =>
    unfold takeLine
    split
    · simp
    · have h := ih c
      simp only [List.length_cons] at h ⊢
      omega

/-- Reads header lines up to a blank one. The last length given counts. -/
def readBlock (length : Nat) (input : Bytes) : Block :=
  match input with
  | [] => .ended
  | b :: bs =>
    let line := (takeLine (b :: bs)).1
    let rest := (takeLine (b :: bs)).2
    match Text.utf8? line with
    | none => .notText ((Text.utf8Fault? line).getD ⟨0, none⟩) rest
    | some text =>
      if Text.isBlank text then .blank length rest
      else readBlock ((contentLength? (Text.trim text)).getD length) rest
termination_by input.length
decreasing_by exact takeLine_length b bs

/-- The bytes that are left after a block. -/
def Block.rest : Block → Bytes
  | .ended => []
  | .notText _ rest => rest
  | .blank _ rest => rest

theorem readBlock_rest_length (n : Nat) (b : UInt8) (bs : Bytes) :
    (readBlock n (b :: bs)).rest.length < (b :: bs).length := by
  suffices h : ∀ k n input, input.length = k → input ≠ [] →
      (readBlock n input).rest.length < input.length from h _ n (b :: bs) rfl (by simp)
  intro k
  induction k using Nat.strongRecOn with
  | ind k ih =>
    intro n input hk hne
    match input, hne with
    | b :: bs, _ =>
      have hl := takeLine_length b bs
      unfold readBlock
      simp only
      split
      · exact hl
      · split
        · exact hl
        · next text _ _ =>
          by_cases hr : (takeLine (b :: bs)).2 = []
          · rw [hr]
            unfold readBlock
            simp [Block.rest]
          · have := ih (takeLine (b :: bs)).2.length (by omega)
              ((contentLength? (Text.trim text)).getD n) _ rfl hr
            omega

/-- The next message of a stream, and the bytes behind it. Blocks without a length, or with length
zero, have no body and are passed over. -/
def readMessage (input : Bytes) : Reading × Bytes :=
  match input with
  | [] => (.ended, [])
  | b :: bs =>
    match h : readBlock 0 (b :: bs) with
    | .ended => (.ended, [])
    | .notText fault rest => (.fault (.notText fault), rest)
    | .blank 0 rest => readMessage rest
    | .blank (n + 1) rest =>
      if bufferBound ≤ n + 1 then (.overflow, rest)
      else if rest.length < n + 1 then (.fault .earlyEnd, [])
      else (.body (Text.utf8Lossy (rest.take (n + 1))), rest.drop (n + 1))
termination_by input.length
decreasing_by
  have := readBlock_rest_length 0 b bs
  simpa [h, Block.rest] using this

/-- Reads messages until the stream ends, or a fault or an overflow stops it; at most `fuel` of
them. -/
def readUpTo : Nat → Bytes → List Reading
  | 0, _ => []
  | fuel + 1, input =>
    match readMessage input with
    | (.body text, rest) => .body text :: readUpTo fuel rest
    | (r, _) => [r]

/-- All messages of a stream, with what ended it. Each message takes at least one byte. -/
def readMessages (input : Bytes) : List Reading := readUpTo (input.length + 1) input

end AppConfig.Wire
