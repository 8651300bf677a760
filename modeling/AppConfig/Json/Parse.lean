import AppConfig.Json.Basic
import AppConfig.Text.Digits

/-!
# AppConfig.Json.Parse

Reading JSON text. Arrays and objects nest at most 127 deep. Members are kept in order, repeated
keys included; what to make of them is for the reader of the value to decide.
-/

namespace AppConfig.Json

/-- Blanks between tokens. -/
def isGap (c : Char) : Bool := c == ' ' || c == '\n' || c == '\t' || c == '\r'

def skipGap (cs : List Char) : List Char := cs.dropWhile isGap

/-- Four hexadecimal digits. -/
def hex4? : List Char → Option (Nat × List Char)
  | a :: b :: c :: d :: rest => do
    let n ← Text.readNat? 16 [a, b, c, d]
    some (n, rest)
  | _ => none

/-- The character of an escape by code unit: one unit of the basic plane, or a surrogate pair. -/
def unitEscape? (cs : List Char) : Option (Char × List Char) :=
  match hex4? cs with
  | none => none
  | some (n, rest) =>
    if n < 0xD800 || 0xDFFF < n then some (Char.ofNat n, rest)
    else if n < 0xDC00 then
      match rest with
      | '\\' :: 'u' :: rest =>
        match hex4? rest with
        | some (m, rest) =>
          if 0xDC00 ≤ m && m ≤ 0xDFFF then
            some (Char.ofNat (0x10000 + (n - 0xD800) * 0x400 + (m - 0xDC00)), rest)
          else none
        | none => none
      | _ => none
    else none

/-- The escapes of one letter. -/
def letterEscape? : Char → Option Char
  | '"' => some '"'
  | '\\' => some '\\'
  | '/' => some '/'
  | 'b' => some '\x08'
  | 'f' => some '\x0c'
  | 'n' => some '\n'
  | 'r' => some '\r'
  | 't' => some '\t'
  | _ => none

/-- The characters of a string behind its opening quote, and the text behind the closing one. -/
def stringTail (fuel : Nat) (cs : List Char) : Option (List Char × List Char) :=
  match fuel with
  | 0 => none
  | fuel + 1 =>
    match cs with
    | [] => none
    | '"' :: rest => some ([], rest)
    | '\\' :: 'u' :: rest => do
      let (c, rest) ← unitEscape? rest
      let (s, rest) ← stringTail fuel rest
      some (c :: s, rest)
    | '\\' :: e :: rest => do
      let c ← letterEscape? e
      let (s, rest) ← stringTail fuel rest
      some (c :: s, rest)
    | c :: rest =>
      if c == '\\' || c.toNat < 0x20 then none
      else do
        let (s, rest) ← stringTail fuel rest
        some (c :: s, rest)

/-- A string behind its opening quote. -/
def string? (cs : List Char) : Option (String × List Char) :=
  (stringTail (cs.length + 1) cs).map fun (s, rest) => (String.ofList s, rest)

/-- Digits without a superfluous zero in front. -/
def wholePart? (cs : List Char) : Option (List Char × List Char) :=
  match cs with
  | '0' :: rest =>
    match rest with
    | c :: _ => if c.isDigit then none else some (['0'], rest)
    | [] => some (['0'], rest)
  | _ =>
    let (ds, rest) := cs.span Char.isDigit
    if ds.isEmpty then none else some (ds, rest)

/-- The digits behind a decimal point; empty without one. -/
def fractionPart? (cs : List Char) : Option (List Char × List Char) :=
  match cs with
  | '.' :: rest =>
    let (ds, rest) := rest.span Char.isDigit
    if ds.isEmpty then none else some (ds, rest)
  | _ => some ([], cs)

/-- The exponent; zero without one. -/
def exponentPart? (cs : List Char) : Option (Int × List Char) :=
  match cs with
  | c :: rest =>
    if c == 'e' || c == 'E' then
      let (negative, rest) := match rest with
        | '-' :: rest => (true, rest)
        | '+' :: rest => (false, rest)
        | rest => (false, rest)
      let (ds, rest) := rest.span Char.isDigit
      match Text.readNat? 10 ds with
      | some n => some (if negative then -(n : Int) else n, rest)
      | none => none
    else some (0, cs)
  | [] => some (0, cs)

/-- Continues a significand of 64 bits with the digits that still fit, and gives back those that
do not, from the first one on. -/
def absorb (n : Nat) : List Char → Nat × List Char
  | [] => (n, [])
  | c :: cs =>
    let next := 10 * n + (c.toNat - '0'.toNat)
    if next < twoTo 64 then absorb next cs else (n, c :: cs)

/-- The largest power of ten that is a double. -/
def topPower : Nat := 308

/-- The double next to a power of ten. -/
def powerOfTen (k : Nat) : Binary64 := .ofDecimal false 1 k

/-- Divides by a power of ten, in as many steps as there are doubles needed to make it up. -/
def shrink (x : Binary64) (k : Nat) : Binary64 :=
  if k ≤ topPower then x.dividedBy (powerOfTen k)
  else if x.isZero then x
  else shrink (x.dividedBy (powerOfTen topPower)) (k - topPower)
termination_by k
decreasing_by
  simp only [topPower] at *
  omega

/-- The double for `n · 10 ^ exponent`: the one next to `n`, times or over the one next to the power
of ten. So a decimal of many digits may be read as a neighbour of the nearest double. `none` if it
is too large. -/
def magnitude? (n : Nat) (exponent : Int) : Option Binary64 :=
  let x := Binary64.ofDecimal false n 0
  if exponent < 0 then some (shrink x (-exponent).toNat)
  else if exponent ≤ topPower then
    let y := x.times (powerOfTen exponent.toNat)
    if y.isFinite then some y else none
  else if n = 0 then some x
  else none

/-- A number. Whole numbers of 64 bits are exact, all others are doubles. Of the digits only those
count that fit into 64 bits; one that is too large for a double is no number. -/
def number? (cs : List Char) : Option (Json × List Char) := do
  let (negative, body) := match cs with
    | '-' :: rest => (true, rest)
    | rest => (false, rest)
  let (whole, rest) ← wholePart? body
  let (fraction, rest') ← fractionPart? rest
  let (exponent, rest'') ← exponentPart? rest'
  let (n, surplus) := absorb 0 whole
  let isWhole := rest''.length == rest.length && surplus.isEmpty
  if isWhole && !negative then some (.int n, rest'')
  else if isWhole && negative && n != 0 && n ≤ twoTo 63 then some (.int (-n), rest'')
  else
    let (m, ignored) := absorb n fraction
    let x ← magnitude? m (exponent + surplus.length - (fraction.length - ignored.length : Nat))
    some (.float (if negative then x.negate else x), rest'')

/-- Drops a fixed word. -/
def word? (word : List Char) (cs : List Char) : Option (List Char) :=
  if word.isPrefixOf cs then some (cs.drop word.length) else none

/-- How deep arrays and objects may nest. -/
def depthLimit : Nat := 127

mutual

/-- A value at the start of the text, blanks before it skipped, and the text behind it. -/
def value? (fuel depth : Nat) (cs : List Char) : Option (Json × List Char) :=
  match fuel with
  | 0 => none
  | fuel + 1 =>
    match skipGap cs with
    | [] => none
    | 'n' :: rest => (word? "ull".toList rest).map fun rest => (.null, rest)
    | 't' :: rest => (word? "rue".toList rest).map fun rest => (.bool true, rest)
    | 'f' :: rest => (word? "alse".toList rest).map fun rest => (.bool false, rest)
    | '"' :: rest => (string? rest).map fun (s, rest) => (.str s, rest)
    | '[' :: rest =>
      match depth with
      | 0 => none
      | depth + 1 =>
        match skipGap rest with
        | ']' :: rest => some (.arr [], rest)
        | rest => do
          let (v, rest) ← value? fuel depth rest
          let (vs, rest) ← items? fuel depth rest
          some (.arr (v :: vs), rest)
    | '\x7b' :: rest =>
      match depth with
      | 0 => none
      | depth + 1 =>
        match skipGap rest with
        | '\x7d' :: rest => some (.obj [], rest)
        | rest => do
          let (m, rest) ← entry? fuel depth rest
          let (ms, rest) ← members? fuel depth rest
          some (.obj (m :: ms), rest)
    | rest => number? rest

/-- The items behind the first one, up to the closing bracket. -/
def items? (fuel depth : Nat) (cs : List Char) : Option (List Json × List Char) :=
  match fuel with
  | 0 => none
  | fuel + 1 =>
    match skipGap cs with
    | ']' :: rest => some ([], rest)
    | ',' :: rest => do
      let (v, rest) ← value? fuel depth rest
      let (vs, rest) ← items? fuel depth rest
      some (v :: vs, rest)
    | _ => none

/-- One member: a key, a colon and a value. -/
def entry? (fuel depth : Nat) (cs : List Char) : Option ((String × Json) × List Char) :=
  match fuel with
  | 0 => none
  | fuel + 1 =>
    match skipGap cs with
    | '"' :: rest => do
      let (k, rest) ← string? rest
      match skipGap rest with
      | ':' :: rest =>
        let (v, rest) ← value? fuel depth rest
        some ((k, v), rest)
      | _ => none
    | _ => none

/-- The members behind the first one, up to the closing brace. -/
def members? (fuel depth : Nat) (cs : List Char) : Option (List (String × Json) × List Char) :=
  match fuel with
  | 0 => none
  | fuel + 1 =>
    match skipGap cs with
    | '\x7d' :: rest => some ([], rest)
    | ',' :: rest => do
      let (m, rest) ← entry? fuel depth rest
      let (ms, rest) ← members? fuel depth rest
      some (m :: ms, rest)
    | _ => none

end

/-- The value of a text that holds one value and nothing else. -/
def parse? (cs : List Char) : Option Json :=
  match value? (2 * cs.length + 2) depthLimit cs with
  | some (v, rest) => if (skipGap rest).isEmpty then some v else none
  | none => none

end AppConfig.Json
