import AppConfig.Yaml.Fault

/-!
# AppConfig.Yaml.Source

The characters a document may hold. A document is examined block by block: a block is the longest
run of characters that takes at most 16384 bytes, and the characters of a block become readable
together, so a forbidden character hides the block that it stands in.
-/

namespace AppConfig.Yaml

/-- The readable characters, and where a forbidden one cuts them off. -/
structure Source where
  chars : List Char
  /-- Bytes before the first forbidden character. -/
  cut : Option Nat

namespace Source

def isAllowed (c : Char) : Bool :=
  let n := c.toNat
  n == 0x09 || n == 0x0A || n == 0x0D || (0x20 ≤ n && n ≤ 0x7E) || n == 0x85 ||
    (0xA0 ≤ n && n ≤ 0xD7FF) || (0xE000 ≤ n && n ≤ 0xFFFD) || 0x10000 ≤ n

/-- Bytes of a character in UTF-8. -/
def byteCount (c : Char) : Nat :=
  let n := c.toNat
  if n < 0x80 then 1 else if n < 0x800 then 2 else if n < 0x10000 then 3 else 4

/-- The size of a block in bytes. -/
def blockSize : Nat := 16384

/-- Reads on: `done` are the characters of finished blocks and `block` those of the current one,
both reversed; `used` counts the bytes of the block and `offset` all bytes. -/
def scan (done block : List Char) (used offset : Nat) : List Char → Source
  | [] => ⟨(block ++ done).reverse, none⟩
  | c :: cs =>
    let n := byteCount c
    if blockSize < used + n then
      if isAllowed c then scan (block ++ done) [c] n (offset + n) cs
      else ⟨(block ++ done).reverse, some offset⟩
    else if isAllowed c then scan done (c :: block) (used + n) (offset + n) cs
    else ⟨done.reverse, some offset⟩

def ofText (text : List Char) : Source := scan [] [] 0 0 text

/-- The fault met when reading runs into the cut. -/
def cutFault (offset : Nat) : Fault := ⟨.controlCharacter, .origin, offset, none⟩

end Source

end AppConfig.Yaml
