import AppConfig.Rpc.Header
import AppConfig.Rpc.Message

/-!
# AppConfig.Rpc.Decoder

Messages out of the bytes that reach the server, in whatever pieces they come.

* `Decoder` — the bytes that are not read yet.
* `Decoder.next` — the next message, or that more bytes are needed, or why there is none.
-/

namespace AppConfig.Rpc

structure Decoder where
  buffer : Bytes
  /-- The length of the body that is to come, once its header is read. -/
  awaited : Option Nat
  deriving Repr

/-- What the bytes hold next. -/
inductive Decoded where
  | message (m : Message) (rest : Decoder)
  /-- Nothing before more bytes come. -/
  | pending (rest : Decoder)
  | fault (f : Fault)

namespace Decoder

def empty : Decoder := ⟨[], none⟩

def push (d : Decoder) (bytes : Bytes) : Decoder := { d with buffer := d.buffer ++ bytes }

/-- A body of `n` bytes; an empty one holds no message. -/
def readBody (n : Nat) (bytes : Bytes) : Decoded :=
  if bytes.length < n then .pending ⟨bytes, some n⟩
  else
    match Text.utf8? (bytes.take n) with
    | none => .fault .parseError
    | some text =>
      if text.isEmpty then .pending ⟨bytes.drop n, none⟩
      else
        match Message.read text with
        | .error f => .fault f
        | .ok m => .message m ⟨bytes.drop n, none⟩

def next (d : Decoder) : Decoded :=
  match d.awaited with
  | some n => readBody n d.buffer
  | none =>
    match Header.readBlock Header.lineLimit d.buffer with
    | .cut => .pending d
    | .bad => .fault .parseError
    | .whole lines rest =>
      match Header.bodyLength? none lines with
      | none => .fault .parseError
      | some n => readBody n rest

theorem readBody_length {n : Nat} {bytes : Bytes} {m : Message} {d : Decoder}
    (h : readBody n bytes = .message m d) : d.buffer.length < bytes.length := by
  unfold readBody at h
  split at h
  · cases h
  · rename_i hn
    split at h
    · cases h
    · rename_i text ht
      split at h
      · cases h
      · rename_i he
        split at h
        · cases h
        · cases h
          have : n ≠ 0 := by
            rintro rfl
            rw [List.take_zero, Text.utf8?] at ht
            cases ht
            exact he rfl
          simp only [List.length_drop]
          omega

/-- A message takes at least one byte. -/
theorem next_length {d d' : Decoder} {m : Message} (h : d.next = .message m d') :
    d'.buffer.length < d.buffer.length := by
  unfold next at h
  split at h
  · exact readBody_length h
  · split at h
    · cases h
    · cases h
    · rename_i hb
      split at h
      · cases h
      · have h₁ := Header.length_of_readBlock hb
        have h₂ := readBody_length h
        omega

end Decoder

end AppConfig.Rpc
