import AppConfig.Net.Url.Escape
import AppConfig.Text.Split

/-!
# AppConfig.Net.Url.Path

Paths with their dot segments resolved.

* `Kind` — what the scheme says about the rest of a locator.
* `Trail` — the part of a path that is written so far, in which each segment but the last one has a
  slash behind it.
* A segment that is a drive letter is never left by going up, and the path of a file has no host
  when it begins with one.
-/

namespace AppConfig.Net.Url

inductive Kind where
  | file
  /-- A scheme with hosts and a usual port. -/
  | hosted (port : Nat)
  | other
  deriving DecidableEq, Repr

def Kind.ofScheme (scheme : List Char) : Kind :=
  match String.ofList scheme with
  | "file" => .file
  | "http" => .hosted 80
  | "ws" => .hosted 80
  | "https" => .hosted 443
  | "wss" => .hosted 443
  | "ftp" => .hosted 21
  | _ => .other

/-- In most schemes a backslash divides a path as a slash does. -/
def Kind.isSlash (kind : Kind) (c : Char) : Bool := c == '/' || (kind != .other && c == '\\')

/-! ### Segments -/

/-- A segment that stands for the place itself, spelled with or without escapes. -/
def isHere (segment : List Char) : Bool :=
  [".", "%2e"].contains (String.ofList (segment.map Char.toLower))

/-- A segment that stands for the place above. -/
def isAbove (segment : List Char) : Bool :=
  ["..", ".%2e", "%2e.", "%2e%2e"].contains (String.ofList (segment.map Char.toLower))

/-- A drive letter and its mark, a colon or a bar. -/
def isDrive : List Char → Bool
  | [c, mark] => c.isAlpha && (mark == ':' || mark == '|')
  | _ => false

/-- What stands behind the last slash of a path. -/
def lastSegment (path : List Char) : List Char := (path.reverse.takeWhile (· != '/')).reverse

/-- A path up to its last slash. -/
def dropSegment (path : List Char) : List Char :=
  path.take (path.length - (lastSegment path).length)

def endsWithSlash (path : List Char) : Bool := path.getLast? == some '/'

/-- A path with a slash at its end. -/
def closed (path : List Char) : List Char := if endsWithSlash path then path else path ++ ['/']

/-- One place up. The first slash is kept, and so is a drive letter. -/
def goUp (path : List Char) : List Char :=
  let bare := if endsWithSlash path then path.dropLast else path
  if endsWithSlash path && (!bare.contains '/' || isDrive (lastSegment bare)) then path
  else dropSegment bare

/-- A path as far as it is written. -/
structure Trail where
  path : List Char
  /-- Whether the locator keeps its host. -/
  keepsHost : Bool
  deriving DecidableEq, Repr

/-- Adds a segment, and the slash behind it if there is one. -/
def Trail.add (kind : Kind) (t : Trail) (segment : List Char) (slash : Bool) : Trail :=
  if isAbove segment then { t with path := if slash then closed (goUp t.path) else goUp t.path }
  else if isHere segment then { t with path := closed t.path }
  else
    let mark := if slash then ['/'] else []
    if kind == .file && t.path.length == 1 && isDrive segment then
      ⟨t.path ++ segment.take 1 ++ ':' :: mark, false⟩
    else { t with path := t.path ++ segment ++ mark }

/-- Adds segments one after the other; there is no slash behind the last one. -/
def Trail.addAll (kind : Kind) (t : Trail) : List (List Char) → Trail
  | [] => t
  | [segment] => t.add kind (escape pathReserved segment) false
  | segment :: rest => addAll kind (t.add kind (escape pathReserved segment) true) rest

/-- Continues a path with a text. The path of a file begins with one slash only. -/
def Trail.write (kind : Kind) (t : Trail) (cs : List Char) : Trail :=
  let t := t.addAll kind (Text.split '/' (cs.map fun c => if kind.isSlash c then '/' else c))
  match kind with
  | .file => { t with path := '/' :: t.path.dropWhile (· == '/') }
  | _ => t

end AppConfig.Net.Url
