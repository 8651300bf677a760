import AppConfig.Json.Print
import AppConfig.Program
import AppConfig.Wire.Frame

/-!
# AppConfig.Web.Http

What the server answers to one request: its health, or that a connection for messages has to be
upgraded. Any origin may ask.
-/

namespace AppConfig.Web

/-- A request for a target: a path, or a whole address. The names of its headers are in lower
case. -/
structure HttpRequest where
  method : String
  target : List Char
  headers : List (String × String)
  deriving DecidableEq, Repr

structure HttpResponse where
  status : Nat
  headers : List (String × String)
  body : String
  deriving DecidableEq, Repr

inductive Route where
  | health
  | messages
  deriving DecidableEq, Repr

/-- What stands behind a scheme, if one is named. -/
def afterScheme? : List Char → Option (List Char)
  | [] => none
  | ':' :: '/' :: '/' :: rest => some rest
  | c :: cs => if c == '/' then none else afterScheme? cs

/-- The part of a target that starts with the path: the target itself, or what follows the host. -/
def fromPath (target : List Char) : List Char :=
  match afterScheme? target with
  | some rest => rest.dropWhile fun c => c != '/' && c != '?' && c != '#'
  | none => target

/-- The path without query and fragment. -/
def barePath (target : List Char) : List Char :=
  (fromPath target).takeWhile fun c => c != '?' && c != '#'

/-- The route of a target; its path has to match to the letter. -/
def route? (target : List Char) : Option Route :=
  match String.ofList (barePath target) with
  | "/health" => some .health
  | "/lsp" => some .messages
  | _ => none

/-- The headers that every answer has. -/
def varyHeader : String × String :=
  ("vary", "origin, access-control-request-method, access-control-request-headers")

def originHeader : String × String := ("access-control-allow-origin", "*")

def sharedHeaders : List (String × String) :=
  [originHeader, ("access-control-expose-headers", "*"), varyHeader]

/-- The headers that tell what a page may ask for. -/
def preflightHeaders : List (String × String) :=
  [("access-control-allow-headers", "*"), ("access-control-allow-methods", "*"), originHeader,
    varyHeader]

/-- How many bytes a body has. -/
def lengthHeader (body : String) : String × String :=
  ("content-length", toString (Text.utf8 body.toList).length)

/-- An answer with a body of a type. -/
def withBody (status : Nat) (type body : String) : HttpResponse :=
  ⟨status, sharedHeaders ++ [("content-type", type), lengthHeader body], body⟩

def healthBody : String :=
  (Json.obj [("status", .str "ok"), ("version", .str programVersion)]).compact

def HttpRequest.header? (r : HttpRequest) (name : String) : Option (List Char) :=
  (r.headers.lookup name).map fun v => Wire.foldCase v.toList

/-- Whether a text occurs in another. -/
def occursIn (part : List Char) : List Char → Bool
  | [] => part.isEmpty
  | c :: cs => part.isPrefixOf (c :: cs) || occursIn part cs

/-- Why a connection cannot be upgraded; each case is looked at only if those before it hold. -/
inductive UpgradeFault where
  | wrongMethod
  | noUpgrade
  | noSocket
  | wrongVersion
  | noKey
  /-- The request is right, but it came over no connection that could be upgraded. -/
  | notUpgradable
  deriving DecidableEq, Repr

namespace UpgradeFault

def status : UpgradeFault → Nat
  | .wrongMethod => 405
  | .notUpgradable => 426
  | _ => 400

def message : UpgradeFault → String
  | .wrongMethod => "Request method must be `GET`"
  | .noUpgrade => "Connection header did not include 'upgrade'"
  | .noSocket => "`Upgrade` header did not include 'websocket'"
  | .wrongVersion => "`Sec-WebSocket-Version` header did not include '13'"
  | .noKey => "`Sec-WebSocket-Key` header missing"
  | .notUpgradable => "WebSocket request couldn't be upgraded since no upgrade state was present"

end UpgradeFault

/-- Why a request for messages is not upgraded. -/
def upgradeFault (r : HttpRequest) : UpgradeFault :=
  if r.method ≠ "GET" then .wrongMethod
  else if !(r.header? "connection").any (occursIn "upgrade".toList) then .noUpgrade
  else if r.header? "upgrade" ≠ some "websocket".toList then .noSocket
  else if r.header? "sec-websocket-version" ≠ some "13".toList then .wrongVersion
  else if r.header? "sec-websocket-key" = none then .noKey
  else .notUpgradable

/-- The methods of a known route. -/
def allowHeaders : List (String × String) := [("allow", "GET,HEAD"), ("content-length", "0")]

/-- What a route answers to being read. -/
def read (r : HttpRequest) : Route → HttpResponse
  | .health => withBody 200 "application/json" healthBody
  | .messages =>
    let fault := upgradeFault r
    withBody fault.status "text/plain; charset=utf-8" fault.message

/-- The answer to a request. -/
def answer (r : HttpRequest) : HttpResponse :=
  match route? r.target with
  | none =>
    if r.method = "OPTIONS" then ⟨200, preflightHeaders, ""⟩ else ⟨404, sharedHeaders, ""⟩
  | some route =>
    if r.method = "OPTIONS" then ⟨200, preflightHeaders ++ allowHeaders, ""⟩
    else if r.method = "GET" then read r route
    else if r.method = "HEAD" then { read r route with body := "" }
    else ⟨405, sharedHeaders ++ allowHeaders, ""⟩

end AppConfig.Web
