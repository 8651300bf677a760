import AppConfig.Text.Utf8

/-!
# AppConfig.Net.Endpoint

Whether a text is a resource identifier that requests can be sent to: a scheme, an authority and a
path, an authority alone, or a path alone.
-/

namespace AppConfig.Net

inductive EndpointFault where
  | empty
  | tooLong
  | schemeTooLong
  | badCharacter
  | badAuthority
  | badFormat
  deriving DecidableEq, Repr

namespace EndpointFault

def message : EndpointFault → String
  | .empty => "empty string"
  | .tooLong => "uri too long"
  | .schemeTooLong => "scheme too long"
  | .badCharacter => "invalid uri character"
  | .badAuthority => "invalid authority"
  | .badFormat => "invalid format"

end EndpointFault

abbrev Octets := List UInt8

/-- The byte of an ASCII character. -/
def byteOf (c : Char) : UInt8 := UInt8.ofNat c.toNat

def isByteOf (s : String) (b : UInt8) : Bool := s.toList.any fun c => byteOf c == b

def isLetterOrDigit (b : UInt8) : Bool := b.toNat < 0x80 && (Char.ofNat b.toNat).isAlphanum

/-- The bytes of a scheme. -/
def isSchemeByte (b : UInt8) : Bool := isLetterOrDigit b || isByteOf "+-.~" b

/-- The bytes of an authority, and those that end it. -/
def isAuthorityByte (b : UInt8) : Bool :=
  isLetterOrDigit b || isByteOf "!#$&'()*+,-./:;=?@[]_~" b

/-- The bytes of a path that need no escape, and some that are let pass. -/
def isPathByte (b : UInt8) : Bool :=
  let n := b.toNat
  n == 0x21 || n == 0x22 || (0x24 ≤ n && n ≤ 0x3B) || n == 0x3D || (0x40 ≤ n && n ≤ 0x5F) ||
    (0x61 ≤ n && n ≤ 0xFF)

/-- The bytes of a query. -/
def isQueryByte (b : UInt8) : Bool :=
  let n := b.toNat
  n == 0x21 || (0x24 ≤ n && n ≤ 0x3B) || n == 0x3D || 0x3F ≤ n

/-- What has been seen of an authority. -/
structure Authority where
  colons : Nat := 0
  opened : Bool := false
  closed : Bool := false
  percent : Bool := false
  /-- Whether the last byte is `@`. -/
  atEnd : Bool := false

/-- The most colons in a row of groups. -/
def colonLimit : Nat := 8

/-- Whether a whole authority is in order. -/
def Authority.check (a : Authority) : Except EndpointFault Unit :=
  if a.opened != a.closed || 1 < a.colons || a.atEnd || a.percent then .error .badAuthority
  else .ok ()

/-- The bytes behind an authority. -/
def dropAuthority (a : Authority) : Octets → Except EndpointFault Octets
  | [] =>
    match a.check with
    | .error e => .error e
    | .ok () => .ok []
  | b :: bs =>
    if isByteOf "/?#" b then
      match a.check with
      | .error e => .error e
      | .ok () => .ok (b :: bs)
    else if b == byteOf ':' then
      if colonLimit ≤ a.colons then .error .badAuthority
      else dropAuthority { a with colons := a.colons + 1, atEnd := false } bs
    else if b == byteOf '[' then
      if a.percent || a.opened then .error .badAuthority
      else dropAuthority { a with opened := true, atEnd := false } bs
    else if b == byteOf ']' then
      if !a.opened || a.closed then .error .badAuthority
      else dropAuthority { a with closed := true, colons := 0, percent := false, atEnd := false } bs
    else if b == byteOf '@' then
      dropAuthority { a with colons := 0, percent := false, atEnd := true } bs
    else if b == byteOf '%' then dropAuthority { a with percent := true, atEnd := false } bs
    else if isAuthorityByte b then dropAuthority { a with atEnd := false } bs
    else .error .badCharacter

/-- Checks a query up to a fragment. -/
def checkQuery : Octets → Except EndpointFault Unit
  | [] => .ok ()
  | b :: bs =>
    if b == byteOf '#' then .ok ()
    else if isQueryByte b then checkQuery bs
    else .error .badCharacter

/-- Checks a path with its query; what a fragment holds does not matter. -/
def checkPath : Octets → Except EndpointFault Unit
  | [] => .ok ()
  | b :: bs =>
    if b == byteOf '?' then checkQuery bs
    else if b == byteOf '#' then .ok ()
    else if isPathByte b then checkPath bs
    else .error .badCharacter

/-- The longest identifier and the longest scheme. -/
def lengthLimit : Nat := 65534
def schemeLimit : Nat := 64

/-- The length of a scheme and its colon and slashes, if the text begins with one. -/
def schemeWidth? (bytes : Octets) : Except EndpointFault (Option Nat) :=
  let scheme := bytes.takeWhile isSchemeByte
  if bytes.length ≤ 3 then .ok none
  else if [byteOf ':', byteOf '/', byteOf '/'].isPrefixOf (bytes.drop scheme.length) then
    if schemeLimit < scheme.length then .error .schemeTooLong
    else .ok (some (scheme.length + 3))
  else .ok none

/-- Checks a text that begins with a scheme or an authority. -/
def checkFull (bytes : Octets) : Except EndpointFault Unit :=
  match schemeWidth? bytes with
  | .error e => .error e
  | .ok none =>
    match dropAuthority {} bytes with
    | .error e => .error e
    | .ok [] => .ok ()
    | .ok (_ :: _) => .error .badFormat
  | .ok (some width) =>
    let body := bytes.drop width
    match dropAuthority {} body with
    | .error e => .error e
    | .ok path => if path.length = body.length then .error .badFormat else checkPath path

/-- Checks a text. -/
def checkEndpoint (text : List Char) : Except EndpointFault Unit :=
  let bytes := Text.utf8 text
  if lengthLimit < bytes.length then .error .tooLong
  else
    match bytes with
    | [] => .error .empty
    | [b] =>
      if isByteOf "/*" b then .ok ()
      else
        match dropAuthority {} [b] with
        | .error e => .error e
        | .ok [] => .ok ()
        | .ok (_ :: _) => .error .badCharacter
    | b :: _ => if b == byteOf '/' then checkPath bytes else checkFull bytes

end AppConfig.Net
