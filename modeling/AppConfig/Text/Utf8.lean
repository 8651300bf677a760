/-!
# AppConfig.Text.Utf8

UTF-8 over lists of bytes.

* `utf8` — the bytes of a text.
* `decodeStep` — one step of decoding: a character, or the longest run of bytes that could begin
  one but does not complete it.
* `utf8?` — strict decoding.
* `utf8Lossy` — decoding that puts `U+FFFD` for each faulty run.
* `utf8Fault?` — where and how a byte sequence fails to be UTF-8.
-/

namespace AppConfig

abbrev Bytes := List UInt8

namespace Text

/-- The bytes of one character. -/
def utf8Char (c : Char) : Bytes :=
  let n := c.toNat
  if n < 0x80 then [UInt8.ofNat n]
  else if n < 0x800 then [UInt8.ofNat (0xC0 + n / 0x40), UInt8.ofNat (0x80 + n % 0x40)]
  else if n < 0x10000 then
    [UInt8.ofNat (0xE0 + n / 0x1000), UInt8.ofNat (0x80 + n / 0x40 % 0x40),
      UInt8.ofNat (0x80 + n % 0x40)]
  else
    [UInt8.ofNat (0xF0 + n / 0x40000), UInt8.ofNat (0x80 + n / 0x1000 % 0x40),
      UInt8.ofNat (0x80 + n / 0x40 % 0x40), UInt8.ofNat (0x80 + n % 0x40)]

/-- The bytes of a text. -/
def utf8 : List Char → Bytes
  | [] => []
  | c :: cs => utf8Char c ++ utf8 cs

/-- A byte that continues a character. -/
def isContinuation (b : UInt8) : Bool := 0x80 ≤ b.toNat && b.toNat < 0xC0

/-- The second bytes that may follow a first byte: overlong forms, surrogates and code points
beyond the last one are left out. -/
def mayFollow (first second : UInt8) : Bool :=
  let a := first.toNat
  let b := second.toNat
  if a == 0xE0 then 0xA0 ≤ b && b < 0xC0
  else if a == 0xED then 0x80 ≤ b && b < 0xA0
  else if a == 0xF0 then 0x90 ≤ b && b < 0xC0
  else if a == 0xF4 then 0x80 ≤ b && b < 0x90
  else 0x80 ≤ b && b < 0xC0

/-- The first step of decoding some bytes: the character or `none`, and the bytes used. -/
def decodeStep (first : UInt8) (rest : Bytes) : Option Char × Nat :=
  let a := first.toNat
  if a < 0x80 then (some (Char.ofNat a), 1)
  else if 0xC2 ≤ a && a < 0xE0 then
    match rest with
    | b :: _ =>
      if isContinuation b then (some (Char.ofNat ((a - 0xC0) * 0x40 + (b.toNat - 0x80))), 2)
      else (none, 1)
    | [] => (none, 1)
  else if 0xE0 ≤ a && a < 0xF0 then
    match rest with
    | b :: rest =>
      if mayFollow first b then
        match rest with
        | c :: _ =>
          if isContinuation c then
            (some (Char.ofNat ((a - 0xE0) * 0x1000 + (b.toNat - 0x80) * 0x40 + (c.toNat - 0x80))), 3)
          else (none, 2)
        | [] => (none, 2)
      else (none, 1)
    | [] => (none, 1)
  else if 0xF0 ≤ a && a < 0xF5 then
    match rest with
    | b :: rest =>
      if mayFollow first b then
        match rest with
        | c :: rest =>
          if isContinuation c then
            match rest with
            | d :: _ =>
              if isContinuation d then
                (some (Char.ofNat ((a - 0xF0) * 0x40000 + (b.toNat - 0x80) * 0x1000 +
                  (c.toNat - 0x80) * 0x40 + (d.toNat - 0x80))), 4)
              else (none, 3)
            | [] => (none, 3)
          else (none, 2)
        | [] => (none, 2)
      else (none, 1)
    | [] => (none, 1)
  else (none, 1)

/-- The characters of a byte sequence that is UTF-8 throughout. -/
def utf8? : Bytes → Option (List Char)
  | [] => some []
  | b :: bs =>
    match decodeStep b bs with
    | (some c, n) => (utf8? (bs.drop (n - 1))).map (c :: ·)
    | (none, _) => none
termination_by bytes => bytes.length
decreasing_by simp only [List.length_drop, List.length_cons]; omega

/-- The characters of a byte sequence, with `U+FFFD` for each faulty run. -/
def utf8Lossy : Bytes → List Char
  | [] => []
  | b :: bs =>
    match decodeStep b bs with
    | (some c, n) => c :: utf8Lossy (bs.drop (n - 1))
    | (none, n) => '\uFFFD' :: utf8Lossy (bs.drop (n - 1))
termination_by bytes => bytes.length
decreasing_by all_goals simp only [List.length_drop, List.length_cons]; omega

/-- A faulty run: the bytes before it, and its length, or `none` if the bytes end before the run is
known to be faulty. -/
structure Utf8Fault where
  index : Nat
  length : Option Nat
  deriving DecidableEq, Repr

namespace Utf8Fault

def message (f : Utf8Fault) : String :=
  match f.length with
  | some n => "invalid utf-8 sequence of " ++ toString n ++ " bytes from index " ++ toString f.index
  | none => "incomplete utf-8 byte sequence from index " ++ toString f.index

end Utf8Fault

/-- How many bytes a character takes that begins with this byte. -/
def expectedWidth (first : UInt8) : Nat :=
  let a := first.toNat
  if a < 0xC2 then 1 else if a < 0xE0 then 2 else if a < 0xF0 then 3 else if a < 0xF5 then 4 else 1

/-- The first faulty run of a byte sequence, counting from `index`. -/
def utf8FaultFrom (index : Nat) : Bytes → Option Utf8Fault
  | [] => none
  | b :: bs =>
    match decodeStep b bs with
    | (some _, n) => utf8FaultFrom (index + n) (bs.drop (n - 1))
    | (none, n) =>
      -- the run reaches the end of the bytes, and more bytes could have completed it
      if bs.length + 1 = n ∧ n < expectedWidth b then some ⟨index, none⟩
      else some ⟨index, some n⟩
termination_by bytes => bytes.length
decreasing_by simp only [List.length_drop, List.length_cons]; omega

/-- The first faulty run of a byte sequence. -/
def utf8Fault? (bytes : Bytes) : Option Utf8Fault := utf8FaultFrom 0 bytes

end Text

end AppConfig
