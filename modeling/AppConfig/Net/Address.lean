import AppConfig.Text.Digits

/-!
# AppConfig.Net.Address

Internet addresses as text.

* `Address.parse?` — strict reading: four decimal numbers without superfluous zeros, or eight
  groups of up to four hexadecimal digits, of which `::` may stand for one zero group or more and
  the last two may be written as four decimal numbers.
* `Address.render` — the shortest form: the first longest run of zero groups is left out.
-/

namespace AppConfig.Net

structure Ipv4 where
  a : Nat
  b : Nat
  c : Nat
  d : Nat
  deriving DecidableEq, Repr

inductive Address where
  | v4 (ip : Ipv4)
  /-- Eight groups of 16 bits. -/
  | v6 (groups : List Nat)
  deriving DecidableEq, Repr

/-- How many groups an address of the second kind has. -/
def groupCount : Nat := 8

/-! ### Reading -/

/-- A number at the start of a text, and the text behind it. All the digits that stand there belong
to it; there are at most `width`, and one before others is zero only if `padded`. -/
def number? (base width : Nat) (padded : Bool) (cs : List Char) : Option (Nat × List Char) :=
  let ds := cs.takeWhile fun c => (Text.digitBelow? base c).isSome
  if width < ds.length || (!padded && 1 < ds.length && ds.head? == some '0') then none
  else (Text.readNat? base ds).map fun n => (n, cs.drop ds.length)

/-- A number of 8 bits. -/
def octet? (cs : List Char) : Option (Nat × List Char) :=
  (number? 10 3 false cs).filter fun r => r.1 < 256

/-- A number of 8 bits behind a point. -/
def dottedOctet? : List Char → Option (Nat × List Char)
  | '.' :: cs => octet? cs
  | _ => none

/-- Four numbers divided by points. -/
def ipv4? (cs : List Char) : Option (Ipv4 × List Char) := do
  let (a, cs) ← octet? cs
  let (b, cs) ← dottedOctet? cs
  let (c, cs) ← dottedOctet? cs
  let (d, cs) ← dottedOctet? cs
  some (⟨a, b, c, d⟩, cs)

/-- The text behind the colon before a group; the first group has none. -/
def groupStart? (first : Bool) (cs : List Char) : Option (List Char) :=
  if first then some cs
  else
    match cs with
    | ':' :: cs => some cs
    | _ => none

/-- The groups that four numbers stand for. -/
def Ipv4.groups (ip : Ipv4) : List Nat := [ip.a * 256 + ip.b, ip.c * 256 + ip.d]

/-- Groups as far as they go. -/
structure Groups where
  groups : List Nat
  /-- Whether the last two are written as four decimal numbers. -/
  dotted : Bool
  rest : List Char

/-- Reads at most `room` groups. -/
def readGroups (first : Bool) (cs : List Char) : Nat → Groups
  | 0 => ⟨[], false, cs⟩
  | room + 1 =>
    match groupStart? first cs with
    | none => ⟨[], false, cs⟩
    | some start =>
      match if 0 < room then ipv4? start else none with
      | some (ip, rest) => ⟨ip.groups, true, rest⟩
      | none =>
        match number? 16 4 true start with
        | none => ⟨[], false, cs⟩
        | some (g, rest) =>
          let more := readGroups false rest room
          ⟨g :: more.groups, more.dotted, more.rest⟩

/-- Eight groups, or fewer around `::`. -/
def ipv6? (cs : List Char) : Option (List Nat × List Char) :=
  let front := readGroups true cs groupCount
  if front.groups.length = groupCount then some (front.groups, front.rest)
  else if front.dotted then none
  else
    match front.rest with
    | ':' :: ':' :: rest =>
      let back := readGroups true rest (groupCount - (front.groups.length + 1))
      let zeros := groupCount - front.groups.length - back.groups.length
      some (front.groups ++ List.replicate zeros 0 ++ back.groups, back.rest)
    | _ => none

/-- The address that a text is. -/
def Address.parse? (cs : List Char) : Option Address :=
  match ipv4? cs with
  | some (ip, rest) => if rest.isEmpty then some (.v4 ip) else none
  | none =>
    match ipv6? cs with
    | some (groups, rest) => if rest.isEmpty then some (.v6 groups) else none
    | none => none

/-! ### Writing -/

def Ipv4.render (ip : Ipv4) : String :=
  toString ip.a ++ "." ++ toString ip.b ++ "." ++ toString ip.c ++ "." ++ toString ip.d

/-- Groups divided by colons. -/
def renderGroups (groups : List Nat) : String :=
  String.intercalate ":" (groups.map fun g => String.ofList (Nat.toDigits 16 g))

/-- How many zeros a list begins with. -/
def leadingZeros (groups : List Nat) : Nat := (groups.takeWhile (· == 0)).length

/-- The start and the length of the first longest run of zeros. -/
def longestZeros : List Nat → Nat × Nat
  | [] => (0, 0)
  | g :: gs =>
    let later := longestZeros gs
    let here := leadingZeros (g :: gs)
    if later.2 ≤ here then (0, here) else (later.1 + 1, later.2)

/-- The address of the first kind that is carried in one of the second kind. -/
def mapped? : List Nat → Option Ipv4
  | [0, 0, 0, 0, 0, 0xFFFF, g, h] => some ⟨g / 256, g % 256, h / 256, h % 256⟩
  | _ => none

/-- Groups with the first longest run of zeros left out. -/
def renderCompressed (groups : List Nat) : String :=
  let zeros := longestZeros groups
  if 1 < zeros.2 then
    renderGroups (groups.take zeros.1) ++ "::" ++ renderGroups (groups.drop (zeros.1 + zeros.2))
  else renderGroups groups

def renderV6 (groups : List Nat) : String :=
  match mapped? groups with
  | some ip => "::ffff:" ++ ip.render
  | none => renderCompressed groups

def Address.render : Address → String
  | .v4 ip => ip.render
  | .v6 groups => renderV6 groups

/-- An address with a port behind it. -/
def Address.renderWithPort (address : Address) (port : Nat) : String :=
  match address with
  | .v4 ip => ip.render ++ ":" ++ toString port
  | .v6 groups => "[" ++ renderV6 groups ++ "]:" ++ toString port

end AppConfig.Net
