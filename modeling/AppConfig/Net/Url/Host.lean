import AppConfig.Net.Address
import AppConfig.Net.Punycode
import AppConfig.Net.Url.Path

/-!
# AppConfig.Net.Url.Host

Hosts and ports in their written form.

* A host whose last part is a number is an address of four bytes, in one of its many spellings.
* Other hosts are names in lower case; parts in other scripts are written in ASCII.
* Schemes that know nothing of hosts take almost any text for one.
-/

namespace AppConfig.Net.Url

inductive Fault where
  | relative
  | emptyHost
  | badDomain
  | badHost
  | badPort
  | badIpv4
  | badIpv6
  deriving DecidableEq, Repr

def Fault.message : Fault → String
  | .relative => "relative URL without a base"
  | .emptyHost => "empty host"
  | .badDomain => "invalid international domain name"
  | .badHost => "invalid domain character"
  | .badPort => "invalid port number"
  | .badIpv4 => "invalid IPv4 address"
  | .badIpv6 => "invalid IPv6 address"

/-! ### Addresses -/

/-- A number in decimal, octal behind a zero, or hexadecimal behind `0x`. -/
def addressNumber? : List Char → Option Nat
  | [] => none
  | '0' :: 'x' :: [] => some 0
  | '0' :: 'x' :: ds => Text.readNat? 16 ds
  | '0' :: d :: ds => Text.readNat? 8 (d :: ds)
  | ds => Text.readNat? 10 ds

/-- The parts of a host between its points; a point at the end does not count. -/
def hostParts (host : List Char) : List (List Char) :=
  let parts := Text.split '.' host
  if parts.getLast? == some [] then parts.dropLast else parts

/-- Whether a host has to be an address: its last part is a number, or consists of digits. -/
def isNumbered (host : List Char) : Bool :=
  match (hostParts host).getLast? with
  | none => false
  | some last => (!last.isEmpty && last.all Char.isDigit) || (addressNumber? last).isSome

/-- The address of up to four numbers. All but the last one are single bytes; the last one stands
for all the bytes that are left. -/
def numberedAddress? (host : List Char) : Option Ipv4 := do
  let numbers ← (hostParts host).mapM addressNumber?
  let last ← numbers.getLast?
  let front := numbers.dropLast
  if 3 < front.length || front.any (255 < ·) || twoTo (8 * (4 - front.length)) ≤ last then none
  else
    let value := front.foldl (fun n b => 256 * n + b) 0 * twoTo (8 * (4 - front.length)) + last
    some ⟨value / 16777216, value / 65536 % 256, value / 256 % 256, value % 256⟩

/-- An address of eight groups between brackets. -/
def bracketedAddress (cs : List Char) : Except Fault (List Char) :=
  match cs.reverse with
  | ']' :: inner =>
    match ipv6? inner.reverse with
    | some (groups, []) => .ok ('[' :: (renderCompressed groups).toList ++ [']'])
    | _ => .error .badIpv6
  | _ => .error .badIpv6

/-! ### Names -/

/-- Characters that no name holds. -/
def isForbidden (c : Char) : Bool :=
  c.toNat ≤ 0x20 || c.toNat == 0x7F || "#/:<>?@[\\]^|%".toList.contains c

/-- A part of a name in ASCII. -/
def asciiPart (part : List Char) : List Char :=
  if part.all Punycode.isAscii then part else "xn--".toList ++ Punycode.encode part

/-- A name in ASCII and lower case. -/
def asciiName? (name : List Char) : Option (List Char) :=
  let lower := name.map Char.toLower
  if lower.any isForbidden then none
  else some (['.'].intercalate ((Text.split '.' lower).map asciiPart))

/-- The host of a scheme that knows hosts. -/
def knownHost (cs : List Char) : Except Fault (List Char) :=
  match cs with
  | '[' :: rest => bracketedAddress rest
  | _ =>
    match (Text.utf8? (unescape cs)).bind asciiName? with
    | none => .error .badDomain
    | some [] => .error .emptyHost
    | some name =>
      if isNumbered name then
        match numberedAddress? name with
        | some ip => .ok ip.render.toList
        | none => .error .badIpv4
      else .ok name

/-- Characters that stand in no host whatever the scheme. -/
def isExcluded (c : Char) : Bool := c == '\x00' || " #/:<>?@[\\]^|".toList.contains c

/-- The host of any other scheme. -/
def otherHost (cs : List Char) : Except Fault (List Char) :=
  match cs with
  | '[' :: rest => bracketedAddress rest
  | _ => if cs.any isExcluded then .error .badHost else .ok (escape [] cs)

def writeHost (kind : Kind) (cs : List Char) : Except Fault (List Char) :=
  match kind with
  | .other => otherHost cs
  | .hosted _ => if cs.isEmpty then .error .emptyHost else knownHost cs
  | .file => knownHost cs

/-! ### Ports -/

/-- A port at the start of a text with its colon in front, and the text behind it. The usual port
is left out. -/
def writePort (kind : Kind) (cs : List Char) : Except Fault (List Char × List Char) :=
  let ds := cs.takeWhile Char.isDigit
  let rest := cs.drop ds.length
  let number := (Text.readNat? 10 ds).getD 0
  if 65535 < number then .error .badPort
  else if rest.head?.any fun c => !"/\\?#".toList.contains c then .error .badPort
  else if ds.isEmpty || kind == .hosted number then .ok ([], rest)
  else .ok (':' :: Nat.toDigits 10 number, rest)

end AppConfig.Net.Url
