import AppConfig.Text.Line
import AppConfig.Text.White

/-!
# AppConfig.Locate

Where a key is declared. A line declares a key when it begins, after white space, with a word
that a colon follows, with or without white space before it.
-/

namespace AppConfig

/-- Characters of a key as it is found in a line: all but white space and the colon. -/
def isKeyChar (c : Char) : Bool := !Text.isWhite c && c != ':'

/-- The word at the start of a line that a colon follows, if its characters are `p` throughout:
the white space before it, and the word. -/
def declaration? (p : Char → Bool) (line : List Char) : Option (List Char × List Char) :=
  let body := line.dropWhile Text.isWhite
  let key := body.takeWhile p
  match key, (body.dropWhile p).dropWhile Text.isWhite with
  | [], _ => none
  | _ :: _, ':' :: _ => some (line.takeWhile Text.isWhite, key)
  | _ :: _, _ => none

/-- The key that a line declares. -/
def declaredKey? (line : List Char) : Option (List Char) :=
  (declaration? isKeyChar line).map (·.2)

/-- The first line that declares a key, at any indentation. -/
def findFieldLine (text : List Char) (field : List Char) : Option Nat :=
  (Text.lines text).findIdx? fun line => declaredKey? line == some field

/-- The first line that declares a key, or the first line of all. -/
def locateField (text : List Char) (field : List Char) : Nat :=
  (findFieldLine text field).getD 0

end AppConfig
