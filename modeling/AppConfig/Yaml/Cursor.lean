import AppConfig.Yaml.Source
import AppConfig.Yaml.Token

/-!
# AppConfig.Yaml.Cursor

The state in which tokens are read, and the moves of its cursor.

* `Scanner` — the characters ahead, the current mark, indentation, pending keys, tokens so far.
* `look` — the characters ahead, of which a given number must be readable.
* `run`, `skip`, `takeBreak` — moves over characters of one line, and over a line break.
-/

namespace AppConfig.Yaml

/-- A place where a mapping key without `?` may have begun; the `:` that decides it comes later. -/
structure PendingKey where
  /-- The line cannot be anything but a key. -/
  required : Bool
  /-- How many tokens precede the key. -/
  number : Nat
  mark : Mark

structure Scanner where
  ahead : List Char
  /-- The length of `ahead`. -/
  left : Nat
  cut : Option Nat
  mark : Mark
  flowDepth : Nat
  /-- A key may begin at the next token. -/
  keyAllowed : Bool
  indent : Int
  indents : List Int
  /-- For each open flow collection and for the block level the pending key, innermost first. -/
  keys : List (Option PendingKey)
  tokens : Array Token
  /-- How many tokens no later token can be put in front of. -/
  settled : Nat
  ended : Bool

abbrev Scan := EStateM Fault Scanner

namespace Scanner

def start (s : Source) : Scanner where
  ahead := s.chars
  left := s.chars.length
  cut := s.cut
  mark := .origin
  flowDepth := 0
  keyAllowed := false
  indent := -1
  indents := []
  keys := []
  tokens := #[]
  settled := 0
  ended := false

end Scanner

/-- Space or tab. -/
def isBlankChar (c : Char) : Bool := c == ' ' || c == '\t'

/-- The line breaks: line feed, carriage return, next line, line and paragraph separator. -/
def isBreakChar (c : Char) : Bool :=
  c == '\n' || c == '\r' || c == '\u0085' || c == '\u2028' || c == '\u2029'

/-- Characters of names: ASCII letters, digits, underscore and dash. -/
def isNameChar (c : Char) : Bool := c.isAlphanum || c == '_' || c == '-'

/-- The text ahead is at its end or begins with a blank or a break. -/
def atGap : List Char → Bool
  | [] => true
  | c :: _ => isBlankChar c || isBreakChar c

/-- The text ahead is at its end or begins with a break. -/
def atLineEnd : List Char → Bool
  | [] => true
  | c :: _ => isBreakChar c

def atBreak : List Char → Bool
  | [] => false
  | c :: _ => isBreakChar c

def atBlank : List Char → Bool
  | [] => false
  | c :: _ => isBlankChar c

/-- The text ahead begins with `c`. -/
def at? (c : Char) : List Char → Bool
  | [] => false
  | d :: _ => c == d

/-- The text ahead begins with `---` or `...` as a word of its own. -/
def atDocumentIndicator : List Char → Bool
  | '-' :: '-' :: '-' :: cs => atGap cs
  | '.' :: '.' :: '.' :: cs => atGap cs
  | _ => false

/-- Fails at the current place, inside something that began at `start`. -/
def failIn {α : Type} (context : Context) (start : Mark) (problem : Problem) : Scan α := do
  throw (.within context start problem (← get).mark)

/-- Fails at the current place. -/
def failHere {α : Type} (problem : Problem) : Scan α := do
  throw (.bare problem (← get).mark)

/-- The characters ahead. If fewer than `n` are left because of a cut, that is the fault. -/
def look (n : Nat) : Scan (List Char) := do
  let s ← get
  match s.cut with
  | some offset => if s.left < n then throw (Source.cutFault offset) else pure s.ahead
  | none => pure s.ahead

/-- How many bytes some characters take in UTF-8. -/
def byteCount (cs : List Char) : Nat := cs.foldl (fun n c => n + c.utf8Size) 0

/-- Moves over `n` characters of the line, or over all that are left. -/
def skip (n : Nat) : Scan Unit :=
  modify fun s => { s with
    ahead := s.ahead.drop n
    left := s.left - n
    mark := { s.mark with
      index := s.mark.index + byteCount (s.ahead.take n)
      column := s.mark.column + (s.ahead.take n).length } }

/-- Moves over the longest run of characters of one kind, none of them a break. -/
def run (p : Char → Bool) : Scan (List Char) := do
  let (got, rest) := (← get).ahead.span p
  skip got.length
  if rest.isEmpty then discard <| look 1
  pure got

/-- Moves over one line break, if there is one, and gives the break that stands for it. -/
def takeBreak : Scan (List Char) := do
  let move (n : Nat) : Scan Unit := modify fun s => { s with
    ahead := s.ahead.drop n
    left := s.left - n
    mark := ⟨s.mark.index + byteCount (s.ahead.take n), s.mark.line + 1, 0⟩ }
  match ← look 2 with
  | '\r' :: '\n' :: _ => move 2; pure ['\n']
  | c :: _ =>
    if c == '\u2028' || c == '\u2029' then move 1; pure [c]
    else if isBreakChar c then move 1; pure ['\n']
    else pure []
  | [] => pure []

/-- Moves over blanks and a comment to the end of the line. -/
def skipToLineEnd : Scan Unit := do
  discard <| run isBlankChar
  if at? '#' (← look 1) then discard <| run (!isBreakChar ·)

/-- A token from `start` to the current place. -/
def emit (kind : TokenKind) (start : Mark) : Scan Unit :=
  modify fun s => { s with tokens := s.tokens.push ⟨kind, start, s.mark⟩ }

end AppConfig.Yaml
