/-!
# AppConfig.Net.Punycode

Names in any script as ASCII letters, digits and hyphens. The ASCII characters come first; the
others follow in the order of their numbers, each as its distance from the one before, in digits of
base 36 whose thresholds adapt to the distances seen so far.
-/

namespace AppConfig.Net.Punycode

/-- A digit of base 36: a letter, then a decimal digit. -/
def digit (d : Nat) : Char :=
  if d < 26 then Char.ofNat ('a'.toNat + d) else Char.ofNat ('0'.toNat + (d - 26))

/-- The threshold of the digit at position `k`. -/
def threshold (k bias : Nat) : Nat :=
  if k ≤ bias then 1 else if bias + 26 ≤ k then 26 else k - bias

/-- A distance in digits, the least significant one first. -/
def digits (bias : Nat) : Nat → Nat → Nat → List Char
  | 0, _, q => [digit q]
  | fuel + 1, k, q =>
    let t := threshold k bias
    if q < t then [digit q]
    else digit (t + (q - t) % (36 - t)) :: digits bias fuel (k + 36) ((q - t) / (36 - t))

/-- Scales a distance down, and counts how often. -/
def scale : Nat → Nat → Nat → Nat × Nat
  | 0, k, delta => (k, delta)
  | fuel + 1, k, delta => if 455 < delta then scale fuel (k + 36) (delta / 35) else (k, delta)

/-- The bias after a distance, when `count` characters are written. -/
def adapt (delta count : Nat) (first : Bool) : Nat :=
  let delta := if first then delta / 700 else delta / 2
  let (k, delta) := scale delta 0 (delta + delta / count)
  k + 36 * delta / (delta + 38)

/-- What is written so far. -/
structure State where
  output : List Char
  delta : Nat
  bias : Nat
  /-- How many characters of the name are written. -/
  count : Nat

/-- Passes a character of the name while those with the number `m` are written. There are `basic`
ASCII characters. -/
def State.pass (basic m : Nat) (s : State) (c : Char) : State :=
  if c.toNat < m then { s with delta := s.delta + 1 }
  else if c.toNat = m then
    { output := s.output ++ digits s.bias (s.delta + 1) 36 s.delta, delta := 0,
      bias := adapt s.delta (s.count + 1) (s.count = basic), count := s.count + 1 }
  else s

/-- Writes the characters with the numbers that are listed in ascending order, from `n` on. -/
def writeFrom (name : List Char) (basic n : Nat) (s : State) : List Nat → State
  | [] => s
  | m :: rest =>
    let s := { s with delta := s.delta + (m - n) * (s.count + 1) }
    let s := name.foldl (State.pass basic m) s
    writeFrom name basic (m + 1) { s with delta := s.delta + 1 } rest

def isAscii (c : Char) : Bool := c.toNat < 0x80

/-- The ASCII form of a name. -/
def encode (name : List Char) : List Char :=
  let basic := name.filter isAscii
  let others := ((name.filter (!isAscii ·)).map Char.toNat).eraseDups.mergeSort
  let front := if basic.isEmpty then [] else basic ++ ['-']
  front ++ (writeFrom name basic.length 0x80 ⟨[], 0, 72, basic.length⟩ others).output

end AppConfig.Net.Punycode
