import AppConfig.Text.Digits
import AppConfig.Text.Utf8

/-!
# AppConfig.Net.Url.Escape

Bytes behind a percent sign. What may not stand for itself in a part of a locator is escaped byte
by byte (`escape`); in a host the escapes are resolved (`unescape`).
-/

namespace AppConfig.Net.Url

def upperHex (n : Nat) : Char :=
  if n < 10 then Char.ofNat ('0'.toNat + n) else Char.ofNat ('A'.toNat + (n - 10))

/-- One byte behind a percent sign. -/
def escapeByte (b : UInt8) : List Char := ['%', upperHex (b.toNat / 16), upperHex (b.toNat % 16)]

/-- A character, escaped if it is no visible ASCII character or one of `reserved`. -/
def escapeChar (reserved : List Char) (c : Char) : List Char :=
  if c.toNat < 0x20 || 0x7E < c.toNat || reserved.contains c then
    (Text.utf8Char c).flatMap escapeByte
  else [c]

def escape (reserved cs : List Char) : List Char := cs.flatMap (escapeChar reserved)

/-- What is escaped in each part. -/
def fragmentReserved : List Char := [' ', '"', '<', '>', '\x60']
def pathReserved : List Char := fragmentReserved ++ ['#', '?', '\x7b', '\x7d']
def queryReserved : List Char := [' ', '"', '#', '<', '>']
def userReserved : List Char := pathReserved ++ ['/', ':', ';', '=', '@', '[', '\\', ']', '^', '|']

/-- The bytes of a text with its escapes resolved. A percent sign without two digits behind it
stands for itself. -/
def unescape : List Char → Bytes
  | '%' :: a :: b :: rest =>
    match Text.readNat? 16 [a, b] with
    | some n => UInt8.ofNat n :: unescape rest
    | none => Text.utf8Char '%' ++ unescape (a :: b :: rest)
  | c :: rest => Text.utf8Char c ++ unescape rest
  | [] => []

end AppConfig.Net.Url
