import AppConfig.Power

/-!
# AppConfig.Text.Digits

Unsigned numbers as text: one optional plus sign, then ASCII digits, at most a given bound.
-/

namespace AppConfig.Text

/-- The value of an ASCII digit in bases up to sixteen. -/
def digitValue? (c : Char) : Option Nat :=
  if '0' ≤ c ∧ c ≤ '9' then some (c.toNat - '0'.toNat)
  else if 'a' ≤ c ∧ c ≤ 'f' then some (c.toNat - 'a'.toNat + 10)
  else if 'A' ≤ c ∧ c ≤ 'F' then some (c.toNat - 'A'.toNat + 10)
  else none

/-- The value of an ASCII digit below `base`. -/
def digitBelow? (base : Nat) (c : Char) : Option Nat :=
  match digitValue? c with
  | some d => if d < base then some d else none
  | none => none

/-- Reads digits onto an accumulator; `none` when a character is no digit of the base. -/
def readDigits (base : Nat) : Nat → List Char → Option Nat
  | acc, [] => some acc
  | acc, c :: cs =>
    match digitBelow? base c with
    | some d => readDigits base (base * acc + d) cs
    | none => none

/-- A non-empty run of digits of the base, and nothing else. -/
def readNat? (base : Nat) : List Char → Option Nat
  | [] => none
  | c :: cs => readDigits base 0 (c :: cs)

/-- A number below `bound`: an optional plus sign and at least one decimal digit. -/
def readBelow? (bound : Nat) (cs : List Char) : Option Nat :=
  let digits := match cs with
    | '+' :: rest => rest
    | rest => rest
  match readNat? 10 digits with
  | some n => if n < bound then some n else none
  | none => none

/-- One past the largest 64-bit natural number. -/
def wordBound : Nat := twoTo 64

end AppConfig.Text
