import AppConfig.Decimal.Shortest
import AppConfig.Json.Basic

/-!
# AppConfig.Json.Print

JSON text, in one line (`Json.compact`) or with two spaces of indentation (`Json.pretty`). Quotes,
backslashes and control characters are escaped; every other character stands for itself.
-/

namespace AppConfig.Json

/-- A lower-case hexadecimal digit. -/
def hexDigit (n : Nat) : Char :=
  if n < 10 then Char.ofNat ('0'.toNat + n) else Char.ofNat ('a'.toNat + (n - 10))

/-- One character of a string. -/
def escapeChar (c : Char) : List Char :=
  if c = '"' then ['\\', '"']
  else if c = '\\' then ['\\', '\\']
  else if c = '\n' then ['\\', 'n']
  else if c = '\r' then ['\\', 'r']
  else if c = '\t' then ['\\', 't']
  else if c = '\x08' then ['\\', 'b']
  else if c = '\x0c' then ['\\', 'f']
  else if c.toNat < 0x20 then ['\\', 'u', '0', '0', hexDigit (c.toNat / 16), hexDigit (c.toNat % 16)]
  else [c]

/-- A string with its quotes. -/
def quote (s : List Char) : List Char := '"' :: s.flatMap escapeChar ++ ['"']

def ofInt (i : Int) : List Char :=
  match i with
  | .ofNat n => Nat.toDigits 10 n
  | .negSucc n => '-' :: Nat.toDigits 10 (n + 1)

/-- Every exponent has a sign. -/
def numberStyle : Decimal.Style := ⟨"+"⟩

/-- Doubles that are not finite have no number; they are written as null. -/
def ofFloat (x : Binary64) : List Char :=
  if x.isFinite then (Decimal.write numberStyle x).toList else "null".toList

def ofBool (b : Bool) : List Char := if b then "true".toList else "false".toList

mutual

/-- The text of a value in one line. -/
def compactChars : Json → List Char
  | .null => "null".toList
  | .bool b => ofBool b
  | .int i => ofInt i
  | .float x => ofFloat x
  | .str s => quote s.toList
  | .arr [] => ['[', ']']
  | .arr (v :: vs) => '[' :: compactChars v ++ compactItems vs
  | .obj [] => ['\x7b', '\x7d']
  | .obj ((k, v) :: ms) => '\x7b' :: quote k.toList ++ ':' :: compactChars v ++ compactMembers ms

/-- The items behind the first one, and the closing bracket. -/
def compactItems : List Json → List Char
  | [] => [']']
  | v :: vs => ',' :: compactChars v ++ compactItems vs

/-- The members behind the first one, and the closing brace. -/
def compactMembers : List (String × Json) → List Char
  | [] => ['\x7d']
  | (k, v) :: ms => ',' :: quote k.toList ++ ':' :: compactChars v ++ compactMembers ms

end

/-- The text of a value in one line. -/
def compact (v : Json) : String := String.ofList (compactChars v)

/-- A line break and indentation. -/
def newline (depth : Nat) : List Char := '\n' :: List.replicate (2 * depth) ' '

mutual

/-- The text of a value whose first line is indented to `depth`. -/
def prettyChars (depth : Nat) : Json → List Char
  | .null => "null".toList
  | .bool b => ofBool b
  | .int i => ofInt i
  | .float x => ofFloat x
  | .str s => quote s.toList
  | .arr [] => ['[', ']']
  | .arr (v :: vs) =>
    '[' :: newline (depth + 1) ++ prettyChars (depth + 1) v ++ prettyItems depth vs
  | .obj [] => ['\x7b', '\x7d']
  | .obj ((k, v) :: ms) =>
    '\x7b' :: newline (depth + 1) ++ quote k.toList ++ ':' :: ' ' :: prettyChars (depth + 1) v ++
      prettyMembers depth ms

/-- The items behind the first one, and the closing bracket. -/
def prettyItems (depth : Nat) : List Json → List Char
  | [] => newline depth ++ [']']
  | v :: vs => ',' :: newline (depth + 1) ++ prettyChars (depth + 1) v ++ prettyItems depth vs

/-- The members behind the first one, and the closing brace. -/
def prettyMembers (depth : Nat) : List (String × Json) → List Char
  | [] => newline depth ++ ['\x7d']
  | (k, v) :: ms =>
    ',' :: newline (depth + 1) ++ quote k.toList ++ ':' :: ' ' :: prettyChars (depth + 1) v ++
      prettyMembers depth ms

end

/-- The text of a value over several lines. -/
def pretty (v : Json) : String := String.ofList (prettyChars 0 v)

end AppConfig.Json
