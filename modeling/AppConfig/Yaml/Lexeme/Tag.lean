import AppConfig.Text.Digits
import AppConfig.Text.Utf8
import AppConfig.Yaml.Cursor

/-!
# AppConfig.Yaml.Lexeme.Tag

Tags: `!suffix`, `!handle!suffix` and `!<uri>`. The URI part of a tag is a run of bytes, because
its percent escapes need not add up to characters; it ends at the first zero byte.
-/

namespace AppConfig.Yaml

/-- The value of a hexadecimal digit. -/
def hexValue? (c : Char) : Option Nat := Text.digitBelow? 16 c

/-- A percent escape: two hexadecimal digits. -/
def octet? : List Char → Option Nat
  | '%' :: a :: b :: _ =>
    match hexValue? a, hexValue? b with
    | some x, some y => some (16 * x + y)
    | _, _ => none
  | _ => none

/-- How many bytes a character takes whose first byte is given; `none` for a byte that cannot
come first. -/
def sequenceWidth? (octet : Nat) : Option Nat :=
  if octet < 0x80 then some 1
  else if 0xC0 ≤ octet && octet < 0xE0 then some 2
  else if 0xE0 ≤ octet && octet < 0xF0 then some 3
  else if 0xF0 ≤ octet && octet < 0xF8 then some 4
  else none

/-- The further escapes of one character, `n` of them. -/
def scanTrailingOctets (context : Context) (start : Mark) : Nat → Scan (List UInt8)
  | 0 => pure []
  | n + 1 => do
    match octet? (← look 3) with
    | none => failIn context start .missingUriOctet
    | some octet =>
      unless 0x80 ≤ octet && octet < 0xC0 do
        failIn context start .badTrailingOctet
      skip 3
      return UInt8.ofNat octet :: (← scanTrailingOctets context start n)

/-- The escapes of one character. -/
def scanEscapedChar (context : Context) (start : Mark) : Scan (List UInt8) := do
  match octet? (← look 3) with
  | none => failIn context start .missingUriOctet
  | some octet =>
    match sequenceWidth? octet with
    | none => failIn context start .badLeadingOctet
    | some width =>
      skip 3
      return UInt8.ofNat octet :: (← scanTrailingOctets context start (width - 1))

/-- Characters of a URI; commas and brackets count only where the URI cannot be mistaken for a
part of a flow collection. -/
def isUriChar (whole : Bool) (c : Char) : Bool :=
  isNameChar c || c ∈ [';', '/', '?', ':', '@', '&', '=', '+', '$', '.', '%', '!', '~', '*', '\'',
    '(', ')'] || (whole && c ∈ [',', '[', ']'])

/-- Bytes before the first zero byte. -/
def beforeZero (bytes : List UInt8) : List UInt8 := bytes.takeWhile (· != 0)

/-- A URI, after `head`, the part of it that has been read as a handle without its first `!`;
`hasHead` says that there was such a part, if only the `!`. -/
def scanUri (whole hasHead : Bool) (head : List UInt8) (context : Context) (start : Mark) :
    Scan (List UInt8) := do
  let mut bytes := head
  let mut any := hasHead
  for _ in [0 : (← get).left] do
    match ← look 1 with
    | [] => break
    | c :: _ =>
      if !isUriChar whole c then break
      any := true
      if c == '%' then
        bytes := bytes ++ (← scanEscapedChar context start)
      else
        bytes := bytes ++ Text.utf8Char c
        skip 1
  discard <| look 1
  unless any do
    failIn context start .missingTagUri
  return beforeZero bytes

/-- A tag handle: `!`, `!!` or `!name!`; in a tag also `!name`, whose name is part of the URI. -/
def scanHandle (inDirective : Bool) (start : Mark) : Scan String := do
  unless at? '!' (← look 1) do
    failIn (if inDirective then .tagDirectiveHandle else .tag) start .missingBang
  skip 1
  let name ← run isNameChar
  if at? '!' (← look 1) then
    skip 1
    return String.ofList ('!' :: name ++ ['!'])
  if inDirective && !name.isEmpty then
    failIn .tagDirectiveHandleEnd start .missingBang
  return String.ofList ('!' :: name)

/-- A tag, and the gap that must follow it. -/
def scanTag : Scan Unit := do
  let start := (← get).mark
  let (handle, suffix) ← do
    match ← look 2 with
    | '!' :: '<' :: _ =>
      skip 2
      let uri ← scanUri true false [] .tagUri start
      unless at? '>' (← look 1) do
        failIn .tag start .missingAngle
      skip 1
      pure ("", uri)
    | _ =>
      let handle ← scanHandle false start
      if 1 < handle.length && handle.back == '!' then
        pure (handle, ← scanUri false false [] .tagUri start)
      else
        let suffix ← scanUri false true (Text.utf8 (handle.toList.drop 1)) .tagUri start
        -- a lone `!` is the non-specific tag
        if suffix.isEmpty then pure ("", [0x21]) else pure ("!", suffix)
  let ahead ← look 1
  unless ((← get).flowDepth != 0 && at? ',' ahead) || atGap ahead do
    failIn .tag start .missingBlankOrBreak
  emit (.tag handle suffix) start

end AppConfig.Yaml
