import AppConfig.Text.Digits
import AppConfig.Text.Split
import AppConfig.Text.Utf8
import AppConfig.Text.White
import AppConfig.Wire.Frame

/-!
# AppConfig.Rpc.Header

The header block in front of a message to the server. It is read more strictly than the blocks of
`Wire.Frame`: names are spelled exactly, at most two lines are allowed, and a faulty line is not
passed over.

* `readBlock` — the lines of a block, and the bytes behind it.
* `bodyLength?` — the length that the lines give.
-/

namespace AppConfig.Rpc.Header

structure Line where
  name : Bytes
  value : Bytes
  deriving DecidableEq, Repr

/-- What reading a part of a block gives. -/
inductive Part (α : Type) where
  | whole (a : α) (rest : Bytes)
  /-- The bytes end too soon. -/
  | cut
  | bad

def isLetter (b : UInt8) : Bool :=
  (0x41 ≤ b.toNat && b.toNat ≤ 0x5A) || (0x61 ≤ b.toNat && b.toNat ≤ 0x7A)

def isDigit (b : UInt8) : Bool := 0x30 ≤ b.toNat && b.toNat ≤ 0x39

/-- The signs that a name may hold. -/
def nameSigns : Bytes := Text.utf8 "!#$%&'*+-.^_\x60|~".toList

def isNameByte (b : UInt8) : Bool := isLetter b || isDigit b || nameSigns.contains b

def isGap (b : UInt8) : Bool := b == 0x20 || b == 0x09

def isValueByte (b : UInt8) : Bool := b == 0x09 || (0x20 ≤ b.toNat && b != 0x7F)

/-- A line end, with or without a carriage return. -/
def lineEnd : Bytes → Part Unit
  | [] => .cut
  | 0x0A :: rest => .whole () rest
  | 0x0D :: 0x0A :: rest => .whole () rest
  | [0x0D] => .cut
  | _ => .bad

/-- Takes blanks off the end. -/
def trimEnd (bytes : Bytes) : Bytes := (bytes.reverse.dropWhile isGap).reverse

/-- The line at the start of some bytes. -/
def readLine (bytes : Bytes) : Part Line :=
  let name := bytes.takeWhile isNameByte
  match bytes.dropWhile isNameByte with
  | [] => .cut
  | 0x3A :: rest =>
    if name.isEmpty then .bad
    else
      let rest := rest.dropWhile isGap
      match lineEnd (rest.dropWhile isValueByte) with
      | .cut => .cut
      | .bad => .bad
      | .whole _ rest' => .whole ⟨name, trimEnd (rest.takeWhile isValueByte)⟩ rest'
  | _ => .bad

/-- A block of at most `limit` lines that ends with an empty line. A line too many is only found
once it is whole. -/
def readBlock (limit : Nat) (bytes : Bytes) : Part (List Line) :=
  match lineEnd bytes with
  | .whole _ rest => .whole [] rest
  | .cut => .cut
  | .bad =>
    match readLine bytes with
    | .cut => .cut
    | .bad => .bad
    | .whole line rest =>
      match limit with
      | 0 => .bad
      | limit + 1 =>
        match readBlock limit rest with
        | .cut => .cut
        | .bad => .bad
        | .whole lines rest' => .whole (line :: lines) rest'

/-- How many lines a block may have. -/
def lineLimit : Nat := 2

/-- Whether a media type says that the body is in UTF-8. -/
def namesUtf8 (value : List Char) : Bool :=
  match ((Text.split ';' value).tail.map Text.trim).find? ("charset=".toList.isPrefixOf ·) with
  | some p => p == "charset=utf-8".toList || p == "charset=utf8".toList
  | none => false

/-- The length that the lines give; of several the last. `none` if there is none, or if a line is
faulty. Lines with other names are passed over. -/
def bodyLength? (given : Option Nat) : List Line → Option Nat
  | [] => given
  | line :: lines =>
    if line.name = Text.utf8 "Content-Length".toList then
      match (Text.utf8? line.value).bind (Text.readBelow? Text.wordBound) with
      | some n => bodyLength? (some n) lines
      | none => none
    else if line.name = Text.utf8 "Content-Type".toList then
      if ((Text.utf8? line.value).map namesUtf8).getD false then bodyLength? given lines
      else none
    else bodyLength? given lines

theorem length_of_lineEnd {bytes rest : Bytes} (h : lineEnd bytes = .whole () rest) :
    rest.length < bytes.length := by
  unfold lineEnd at h
  split at h
  · cases h
  · cases h; simp only [List.length_cons]; omega
  · cases h; simp only [List.length_cons]; omega
  · cases h
  · cases h

theorem length_dropWhile_le {p : UInt8 → Bool} (bytes : Bytes) :
    (bytes.dropWhile p).length ≤ bytes.length :=
  (List.dropWhile_sublist p).length_le

theorem length_of_readLine {bytes rest : Bytes} {line : Line}
    (h : readLine bytes = .whole line rest) : rest.length < bytes.length := by
  unfold readLine at h
  simp only at h
  have hn := length_dropWhile_le (p := isNameByte) bytes
  split at h
  · cases h
  · rename_i r hr
    rw [hr] at hn
    split at h
    · cases h
    · have hg := length_dropWhile_le (p := isGap) r
      have hv := length_dropWhile_le (p := isValueByte) (r.dropWhile isGap)
      split at h
      · cases h
      · cases h
      · rename_i u r' he
        cases h
        have := length_of_lineEnd he
        simp only [List.length_cons] at hn
        omega
  · cases h

/-- A block takes at least the byte of its last line end. -/
theorem length_of_readBlock {limit : Nat} {bytes rest : Bytes} {lines : List Line}
    (h : readBlock limit bytes = .whole lines rest) : rest.length < bytes.length := by
  induction limit generalizing bytes lines with
  | zero =>
    unfold readBlock at h
    split at h
    · rename_i he; cases h; exact length_of_lineEnd he
    · cases h
    · split at h <;> cases h
  | succ n ih =>
    unfold readBlock at h
    split at h
    · rename_i he; cases h; exact length_of_lineEnd he
    · cases h
    · split at h
      · cases h
      · cases h
      · rename_i hl
        simp only at h
        split at h
        · cases h
        · cases h
        · rename_i hb
          cases h
          have h₁ := length_of_readLine hl
          have h₂ := ih hb
          omega

end AppConfig.Rpc.Header
