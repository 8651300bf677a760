import AppConfig.Json.Print
import AppConfig.Yaml.Cursor
import AppConfig.Yaml.Scalar

/-!
# AppConfig.Yaml.Write

Writing data as YAML in block style. Sequences stand at the column of their key, empty collections
are written as in JSON, and lines are never folded.

* `ScalarForm` — what the characters of a string allow.
* `writeString` — a string in the simplest style that reads back as it.
* `write` — a value.
-/

namespace AppConfig.Yaml

namespace Write

/-- A character that may be written as it is: everything but controls, the byte-order mark,
`U+0085` and the two last code points of the basic plane. -/
def isPrintable (c : Char) : Bool :=
  let n := c.toNat
  n == 0x0A || (0x20 ≤ n && n ≤ 0x7E) ||
    (0xA0 ≤ n && n != 0xFEFF && n != 0xFFFE && n != 0xFFFF)

/-- Which styles can carry a string. -/
structure ScalarForm where
  plain : Bool
  singleQuoted : Bool
  block : Bool

/-- What a walk over a string has seen. -/
structure Survey where
  indicator : Bool := false
  special : Bool := false
  breaks : Bool := false
  /-- A space behind a break. -/
  breakSpace : Bool := false
  /-- A break behind a space. -/
  spaceBreak : Bool := false
  afterSpace : Bool := false
  afterBreak : Bool := false
  /-- The next character stands behind a blank, a break or nothing. -/
  afterGap : Bool := true

namespace Survey

/-- Takes one more character into account; `next` are the characters behind it. -/
def step (s : Survey) (first : Bool) (c : Char) (next : List Char) : Survey :=
  let beforeGap := atGap next
  let indicator :=
    if first then
      c ∈ ['#', ',', '[', ']', '\x7b', '\x7d', '&', '*', '!', '|', '>', '\'', '"', '%', '@', '\x60'] ||
        ((c == '?' || c == ':' || c == '-') && beforeGap)
    else (c == ':' && beforeGap) || (c == '#' && s.afterGap)
  let isSpace := c == ' '
  let isBreak := isBreakChar c
  { indicator := s.indicator || indicator
    special := s.special || !isPrintable c
    breaks := s.breaks || isBreak
    breakSpace := s.breakSpace || (isSpace && s.afterBreak)
    spaceBreak := s.spaceBreak || (isBreak && s.afterSpace)
    afterSpace := isSpace
    afterBreak := isBreak
    afterGap := isBlankChar c || isBreak }

def rest (s : Survey) : List Char → Survey
  | [] => s
  | c :: cs => rest (s.step false c cs) cs

def of : List Char → Survey
  | [] => {}
  | c :: cs => rest (({} : Survey).step true c cs) cs

end Survey

/-- The text begins with a document indicator. -/
def startsLikeIndicator : List Char → Bool
  | '-' :: '-' :: '-' :: _ => true
  | '.' :: '.' :: '.' :: _ => true
  | _ => false

def isSpaceOrBreak (c : Char) : Bool := c == ' ' || isBreakChar c

def ScalarForm.of (cs : List Char) : ScalarForm :=
  match cs with
  | [] => ⟨true, true, false⟩
  | first :: _ =>
    let s := Survey.of cs
    let last := cs.getLastD first
    let edge := isSpaceOrBreak first || isSpaceOrBreak last
    { plain := !(s.indicator || startsLikeIndicator cs || edge || s.breakSpace || s.spaceBreak ||
        s.special || s.breaks)
      singleQuoted := !(s.breakSpace || s.spaceBreak || s.special)
      block := !(last == ' ' || s.spaceBreak || s.special) }

def spaces (n : Nat) : List Char := List.replicate n ' '

/-- Inside single quotes a quote is written twice; behind a break the text goes on at `indent`. -/
def singleQuotedTail (indent : Nat) (afterBreak : Bool) : List Char → List Char
  | [] => if afterBreak then spaces indent ++ ['\''] else ['\'']
  | c :: cs =>
    if isBreakChar c then c :: singleQuotedTail indent true cs
    else
      (if afterBreak then spaces indent else []) ++
        (if c == '\'' then ['\'', '\''] else [c]) ++ singleQuotedTail indent false cs

def hexUpper (width n : Nat) : List Char :=
  let ds := (Nat.toDigits 16 n).map Char.toUpper
  List.replicate (width - ds.length) '0' ++ ds

/-- One character inside double quotes. -/
def doubleQuotedChar (c : Char) : List Char :=
  let n := c.toNat
  if isPrintable c && !isBreakChar c && c != '"' && c != '\\' then [c]
  else
    '\\' :: match c with
      | '\x00' => ['0']
      | '\x07' => ['a']
      | '\x08' => ['b']
      | '\t' => ['t']
      | '\n' => ['n']
      | '\x0b' => ['v']
      | '\x0c' => ['f']
      | '\r' => ['r']
      | '\x1b' => ['e']
      | '"' => ['"']
      | '\\' => ['\\']
      | '\u0085' => ['N']
      | '\u00a0' => ['_']
      | '\u2028' => ['L']
      | '\u2029' => ['P']
      | _ =>
        if n ≤ 0xFF then 'x' :: hexUpper 2 n
        else if n ≤ 0xFFFF then 'u' :: hexUpper 4 n
        else 'U' :: hexUpper 8 n

def doubleQuoted (cs : List Char) : List Char := '"' :: cs.flatMap doubleQuotedChar ++ ['"']

/-- The lines of a literal block. -/
def literalLines (indent : Nat) (afterBreak : Bool) : List Char → List Char
  | [] => []
  | c :: cs =>
    if isBreakChar c then c :: literalLines indent true cs
    else (if afterBreak then spaces indent else []) ++ c :: literalLines indent false cs

/-- The digit in a header. A text that begins with a space or break does not show its indentation. -/
def indentDigit : List Char → List Char
  | c :: _ => if isSpaceOrBreak c then ['2'] else []
  | [] => []

/-- The sign in a header, for how the text ends, and whether the break that follows the block is part
of the text. -/
def endSign (cs : List Char) : List Char × Bool :=
  match cs.reverse with
  | [] => (['-'], false)
  | [c] => if isBreakChar c then (['+'], true) else (['-'], false)
  | c :: d :: _ =>
    if !isBreakChar c then (['-'], false)
    else if isBreakChar d then (['+'], true)
    else ([], true)

/-- A literal block: its header says whether the text begins with a space or break, and how it
ends. The break that follows the block is part of a text that ends with one. -/
def literal (indent : Nat) (cs : List Char) : List Char :=
  let (sign, closed) := endSign cs
  '|' :: indentDigit cs ++ sign ++ '\n' :: literalLines indent true cs ++
    (if closed then [] else ['\n'])

/-- A string that would read back as something else when written plainly. -/
def readsAsOther (s : String) : Bool :=
  Scalar.isPaddedDigits s.toList || (match Scalar.plain s with
    | .ok (.str _) => false
    | .ok _ => true
    | .error _ => true)

/-- A string and the break behind it; continuation lines are indented to `indent`. -/
def stringLine (indent : Nat) (s : String) : List Char :=
  let cs := s.toList
  let form := ScalarForm.of cs
  if cs.contains '\n' then
    if form.block then literal indent cs else doubleQuoted cs ++ ['\n']
  else if form.plain && !readsAsOther s then cs ++ ['\n']
  else if form.singleQuoted then '\'' :: singleQuotedTail indent false cs ++ ['\n']
  else doubleQuoted cs ++ ['\n']

mutual

/-- What follows `key:` in a mapping at `indent`. -/
def entryValue (indent : Nat) : Json → List Char
  | .arr (v :: vs) => '\n' :: items indent (v :: vs)
  | .obj (m :: ms) => '\n' :: members (indent + 2) (m :: ms)
  | .null => " null\n".toList
  | .bool b => ' ' :: Json.ofBool b ++ ['\n']
  | .int i => ' ' :: Json.ofInt i ++ ['\n']
  | .float x => ' ' :: Json.ofFloat x ++ ['\n']
  | .str s => ' ' :: stringLine (indent + 2) s
  | .arr [] => " []\n".toList
  | .obj [] => [' ', '\x7b', '\x7d', '\n']

/-- What follows `-` in a sequence at `indent`. -/
def itemValue (indent : Nat) : Json → List Char
  | .arr (v :: vs) => ' ' :: '-' :: itemValue (indent + 2) v ++ items (indent + 2) vs
  | .obj ((k, v) :: ms) =>
    ' ' :: (stringLine 0 k).dropLast ++ ':' :: entryValue (indent + 2) v ++ members (indent + 2) ms
  | .null => " null\n".toList
  | .bool b => ' ' :: Json.ofBool b ++ ['\n']
  | .int i => ' ' :: Json.ofInt i ++ ['\n']
  | .float x => ' ' :: Json.ofFloat x ++ ['\n']
  | .str s => ' ' :: stringLine (indent + 2) s
  | .arr [] => " []\n".toList
  | .obj [] => [' ', '\x7b', '\x7d', '\n']

/-- The items of a sequence at `indent`. -/
def items (indent : Nat) : List Json → List Char
  | [] => []
  | v :: vs => spaces indent ++ '-' :: itemValue indent v ++ items indent vs

/-- The members of a mapping at `indent`. -/
def members (indent : Nat) : List (String × Json) → List Char
  | [] => []
  | (k, v) :: ms =>
    spaces indent ++ (stringLine 0 k).dropLast ++ ':' :: entryValue indent v ++ members indent ms

end

/- Equations of the block, by computation: to unfold one of its functions is to have all its
equations proved. -/
section

variable (indent : Nat) (key : String) (v : Json) (vs : List Json) (ms : List (String × Json))

theorem itemValue_obj :
    itemValue indent (.obj ((key, v) :: ms)) =
      ' ' :: (stringLine 0 key).dropLast ++ ':' :: entryValue (indent + 2) v ++
        members (indent + 2) ms := rfl

theorem items_cons :
    items indent (v :: vs) = spaces indent ++ '-' :: itemValue indent v ++ items indent vs := rfl

theorem members_nil : members indent [] = [] := rfl

theorem members_cons :
    members indent ((key, v) :: ms) =
      spaces indent ++ (stringLine 0 key).dropLast ++ ':' :: entryValue indent v ++
        members indent ms := rfl

theorem entryValue_arr_nil : entryValue indent (.arr []) = " []\n".toList := rfl

theorem entryValue_arr_cons :
    entryValue indent (.arr (v :: vs)) = '\n' :: items indent (v :: vs) := rfl

theorem entryValue_nat (n : Nat) :
    entryValue indent (.nat n) = ' ' :: Nat.toDigits 10 n ++ ['\n'] := rfl

theorem entryValue_str (s : String) :
    entryValue indent (.str s) = ' ' :: stringLine (indent + 2) s := rfl

end

end Write

/-- A value as a YAML document. -/
def write (v : Json) : String :=
  String.ofList <| match v with
    | .arr (i :: is) => Write.items 0 (i :: is)
    | .obj (m :: ms) => Write.members 0 (m :: ms)
    | v => (Write.itemValue 0 v).drop 1

end AppConfig.Yaml
