import AppConfig.Json.Parse
import AppConfig.Json.Sorted

/-!
# AppConfig.Rpc.Message

Messages between a client and the server: calls and responses.

* `Call` — a method with parameters. With an identifier, be it null, it asks for a response;
  without one it is a notification.
* `Response` — a result or an error.
* `Message.read` — the message of a text. What has an identifier and a result or an error is a
  response, whatever else it holds.
-/

namespace AppConfig.Rpc

inductive Id where
  | number (i : Int)
  | text (s : String)
  /-- Also that of a response to what could not be read. -/
  | null
  deriving DecidableEq, Repr

namespace Id

def toJson : Id → Json
  | .number i => .int i
  | .text s => .str s
  | .null => .null

end Id

structure Call where
  method : String
  params : Option Json
  /-- `none` for a notification. -/
  id : Option Id
  deriving Repr

structure Fault where
  code : Int
  message : String
  data : Option Json
  deriving Repr

namespace Fault

def parseError : Fault := ⟨-32700, "Parse error", none⟩

def invalidRequest : Fault := ⟨-32600, "Invalid request", none⟩

def methodNotFound : Fault := ⟨-32601, "Method not found", none⟩

/-- A method that nobody knows. -/
def unknownMethod (name : String) : Fault := { methodNotFound with data := some (.str name) }

def invalidParams (message : String) : Fault := ⟨-32602, message, none⟩

def notInitialized : Fault := ⟨-32002, "Server not initialized", none⟩

def toJson (f : Fault) : Json :=
  .obj ([("code", .int f.code), ("message", .str f.message)] ++
    match f.data with
    | some d => [("data", d)]
    | none => [])

end Fault

structure Response where
  id : Id
  outcome : Except Fault Json

namespace Response

def toJson (r : Response) : Json :=
  match r.outcome with
  | .ok result => .obj [("jsonrpc", .str "2.0"), ("result", result), ("id", r.id.toJson)]
  | .error f => .obj [("jsonrpc", .str "2.0"), ("error", f.toJson), ("id", r.id.toJson)]

/-- The response to a call, if it asks for one. -/
def to? (c : Call) (outcome : Option (Except Fault Json)) : Option Response :=
  match c.id, outcome with
  | some id, some o => some ⟨id, o⟩
  | _, _ => none

end Response

inductive Message where
  | call (c : Call)
  /-- The server asks the client nothing, so what a response says does not matter. -/
  | response
  deriving Repr

namespace Message

/-- The only member under a key; `none` if there is none or more than one. -/
def single? (members : List (String × Json)) (key : String) : Option Json :=
  match members.filter (·.1 == key) with
  | [(_, v)] => some v
  | _ => none

/-- Whether a key occurs at most once. -/
def unrepeated (members : List (String × Json)) (key : String) : Bool :=
  (members.filter (·.1 == key)).length ≤ 1

def hasVersion (members : List (String × Json)) : Bool :=
  match single? members "jsonrpc" with
  | some (.str v) => v == "2.0"
  | _ => false

/-- An identifier: a number of 64 bits, a text or null. -/
def id? : Json → Option Id
  | .null => some .null
  | .int i => if -(twoTo 63) ≤ i ∧ i < twoTo 63 then some (.number i) else none
  | .str s => some (.text s)
  | _ => none

/-- Whether a value is the code of an error: a number of 64 bits. -/
def isCode : Json → Bool
  | .int i => -(twoTo 63) ≤ i && i < twoTo 63
  | _ => false

/-- Whether a value is an error with a code and a message; a list has the data in the third
place. -/
def isFault : Json → Bool
  | .obj ms =>
    unrepeated ms "data" &&
    (match single? ms "code", single? ms "message" with
    | some code, some (.str _) => isCode code
    | _, _ => false)
  | .arr [code, .str _, _] => isCode code
  | _ => false

def isResponse (members : List (String × Json)) : Bool :=
  hasVersion members &&
  (match single? members "id" with
  | some v => (id? v).isSome
  | none => false) &&
  ((single? members "result").isSome ||
    (match single? members "error" with
    | some v => isFault v
    | none => false))

/-- The identifier of a call; a call may leave it out. -/
def callId? : Option Json → Option (Option Id)
  | none => some none
  | some v => (id? v).map some

/-- The method of a call; a call may leave it out. -/
def method? : Option Json → Option String
  | none => some ""
  | some (.str m) => some m
  | some _ => none

def call? (members : List (String × Json)) : Option Call :=
  if hasVersion members && ["method", "params", "id"].all (unrepeated members) then
    match method? (single? members "method"), callId? (single? members "id") with
    | some method, some id => some ⟨method, (single? members "params").map Json.sorted, id⟩
    | _, _ => none
  else none

/-- A message of the parts of a call in order: the version, the method, the parameters and the
identifier. Parts at the end may be left out. -/
def ofList? : List Json → Option Message
  | .str "2.0" :: parts =>
    match method? parts[0]?, callId? parts[2]? with
    | some method, some id =>
      if parts.length ≤ 3 then some (.call ⟨method, parts[1]?.map Json.sorted, id⟩) else none
    | _, _ => none
  | _ => none

def ofJson? : Json → Option Message
  | .obj members =>
    if isResponse members then some .response else (call? members).map .call
  | .arr items => ofList? items
  | _ => none

/-- The message at the start of a text that holds nothing else. -/
def read (text : List Char) : Except Fault Message :=
  match Json.value? (2 * text.length + 2) Json.depthLimit text with
  | none => .error .parseError
  | some (v, rest) =>
    match ofJson? v with
    | none => .error .invalidRequest
    | some m => if (Json.skipGap rest).isEmpty then .ok m else .error .parseError

end Message

end AppConfig.Rpc
