import AppConfig.Text.Digits
import AppConfig.Yaml.Value

/-!
# AppConfig.Yaml.Scalar

What the text of a scalar stands for. A plain scalar is null, a boolean, an integer or a float if
it reads as one, tried in this order, and a string otherwise. Integers are words of 64 bits; one
that only fits 128 bits is read but no value of a document.
-/

namespace AppConfig.Yaml

namespace Scalar

/-- An integer in a scalar. -/
inductive Integer where
  | word (i : Int)
  /-- Needs 128 bits; `signed` if it is negative. -/
  | wide (i : Int) (signed : Bool)
  deriving DecidableEq, Repr

def isNull (s : String) : Bool := s ∈ ["~", "null", "Null", "NULL"]

def bool? (s : String) : Option Bool :=
  if s ∈ ["true", "True", "TRUE"] then some true
  else if s ∈ ["false", "False", "FALSE"] then some false
  else none

/-- Leading zeros in front of further digits make a text of digits a string. -/
def isPaddedDigits (cs : List Char) : Bool :=
  let body := match cs with
    | '-' :: rest => rest
    | '+' :: rest => rest
    | rest => rest
  match body with
  | '0' :: c :: rest => (c :: rest).all Char.isDigit
  | _ => false

/-- The part after a base marker `0x`, `0o` or `0b`, with the base. -/
def based? : List Char → Option (Nat × List Char)
  | '0' :: 'x' :: rest => some (16, rest)
  | '0' :: 'o' :: rest => some (8, rest)
  | '0' :: 'b' :: rest => some (2, rest)
  | _ => none

/-- Natural numbers below `bound`, with an optional plus sign. -/
def natural? (bound : Nat) (cs : List Char) : Option Nat :=
  let body := match cs with
    | '+' :: rest => rest
    | rest => rest
  let inBase := (based? body).bind fun (base, rest) => Text.readNat? base rest
  match inBase.filter (· < bound) with
  | some n => some n
  | none => if isPaddedDigits cs then none else (Text.readNat? 10 body).filter (· < bound)

/-- Negative numbers from `-bound` on. -/
def negative? (bound : Nat) (cs : List Char) : Option Int :=
  match cs with
  | '-' :: body =>
    let inBase := (based? body).bind fun (base, rest) => Text.readNat? base rest
    match inBase.filter (· ≤ bound) with
    | some n => some (-n)
    | none =>
      if isPaddedDigits cs then none
      else ((Text.readNat? 10 body).filter (· ≤ bound)).map fun n => -(n : Int)
  | _ => none

/-- An integer that fits 64 bits, or else 128. -/
def integer? (cs : List Char) : Option Integer :=
  match natural? (twoTo 64) cs with
  | some n => some (.word n)
  | none =>
    match negative? (twoTo 63) cs with
    | some i => some (.word i)
    | none =>
      match natural? (twoTo 128) cs with
      | some n => some (.wide n false)
      | none => (negative? (twoTo 127) cs).map fun i => .wide i true

/-- The exponent of a decimal: nothing, or a marker, an optional sign and digits. -/
def exponent? : List Char → Option Int
  | [] => some 0
  | c :: cs =>
    if c == 'e' || c == 'E' then
      match cs with
      | '-' :: ds => (Text.readNat? 10 ds).map fun n => -(n : Int)
      | '+' :: ds => (Text.readNat? 10 ds).map Int.ofNat
      | ds => (Text.readNat? 10 ds).map Int.ofNat
    else none

/-- A decimal number: a sign, digits with an optional point, and an exponent. -/
def decimal? (cs : List Char) : Option Binary64 :=
  let (negative, body) := match cs with
    | '-' :: rest => (true, rest)
    | '+' :: rest => (false, rest)
    | rest => (false, rest)
  let (whole, rest) := body.span Char.isDigit
  let (fraction, rest) := match rest with
    | '.' :: rest => rest.span Char.isDigit
    | rest => ([], rest)
  if whole.isEmpty && fraction.isEmpty then none
  else
    match exponent? rest, Text.readNat? 10 (whole ++ fraction) with
    | some e, some n => some (Binary64.ofDecimal negative n (e - fraction.length))
    | _, _ => none

/-- A float: an infinity, a NaN, or a decimal that is finite. -/
def float? (s : String) : Option Binary64 :=
  let cs := s.toList
  let plus := match cs with
    | '+' :: rest => some rest
    | _ => none
  let body := plus.getD cs
  let doubled := plus.isSome && (match body with
    | '+' :: _ => true
    | '-' :: _ => true
    | _ => false)
  if doubled then none
  else if String.ofList body ∈ [".inf", ".Inf", ".INF"] then some (Binary64.infinity false)
  else if s ∈ ["-.inf", "-.Inf", "-.INF"] then some (Binary64.infinity true)
  else if s ∈ [".nan", ".NaN", ".NAN"] then some Binary64.nan
  else (decimal? body).filter Binary64.isFinite

/-- Why a scalar is no value. -/
inductive Rejection where
  /-- The text does not have the form that its tag asks for. -/
  | wrongForm (text : String) (wanted : String)
  | tooWide (i : Int) (signed : Bool)
  deriving DecidableEq, Repr

def Integer.toValue : Integer → Except Rejection Value
  | .word i => .ok (.int i)
  | .wide i signed => .error (.tooWide i signed)

/-- A plain scalar without a tag. -/
def plain (s : String) : Except Rejection Value :=
  if s.isEmpty || isNull s then .ok .null
  else
    match bool? s with
    | some b => .ok (.bool b)
    | none =>
      match integer? s.toList with
      | some i => i.toValue
      | none =>
        if isPaddedDigits s.toList then .ok (.str s)
        else
          match float? s with
          | some x => .ok (.float x)
          | none => .ok (.str s)

/-- The tags of the core types. -/
inductive CoreTag where
  | bool
  | int
  | float
  | null

/-- A scalar under the tag of a core type must have that type's form. -/
def ofCoreTag (tag : CoreTag) (s : String) : Except Rejection Value :=
  match tag with
  | .bool =>
    match bool? s with
    | some b => .ok (.bool b)
    | none => .error (.wrongForm s "a boolean")
  | .int =>
    match integer? s.toList with
    | some i => i.toValue
    | none => .error (.wrongForm s "an integer")
  | .float =>
    match float? s with
    | some x => .ok (.float x)
    | none => .error (.wrongForm s "a float")
  | .null => if isNull s then .ok .null else .error (.wrongForm s "null")

end Scalar

end AppConfig.Yaml
