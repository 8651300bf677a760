import AppConfig.Editor.Encode
import AppConfig.Editor.Worker
import AppConfig.Json.Print
import AppConfig.Program
import AppConfig.Rpc.Message
import AppConfig.Rpc.Method

/-!
# AppConfig.Rpc.Server

The language server as a state and a step for each call.

* `Phase` — how far the conversation with the client is. Documents are looked after only in
  between: after the introduction and before the shutdown.
* `Server.receive` — what a call changes, what the server sends of its own accord, and the
  response. A client that has said goodbye is not listened to any more.
* `Server.settle` — the work that is due, and the diagnostics that come of it.
-/

namespace AppConfig.Rpc

open Editor (Workspace Publication)

inductive Phase where
  /-- The client has not introduced itself. -/
  | fresh
  | ready
  /-- The client has asked to shut down. -/
  | stopped
  /-- The client has said goodbye. -/
  | exited
  deriving DecidableEq, Repr

/-- What the server sends without being asked. -/
inductive Push where
  | log (text : String)
  | diagnostics (p : Publication)
  deriving DecidableEq, Repr

/-- The number of an informational message. -/
def infoNumber : Nat := 3

namespace Push

def method : Push → String
  | .log _ => "window/logMessage"
  | .diagnostics _ => "textDocument/publishDiagnostics"

def params : Push → Json
  | .log text => .obj [("type", .nat infoNumber), ("message", .str text)]
  | .diagnostics p =>
    .obj ([("uri", .str p.uri), ("diagnostics", .arr (p.diagnostics.map (·.toJson)))] ++
      match p.version with
      | some v => [("version", .int v)]
      | none => [])

def toJson (p : Push) : Json :=
  .obj [("jsonrpc", .str "2.0"), ("method", .str p.method), ("params", p.params)]

end Push

/-! ### Parameters in their plain form -/

/-- The value at a path of keys; null if there is none. -/
def valueAt (v : Json) : List String → Json
  | [] => v
  | key :: keys => valueAt ((v.get? key).getD .null) keys

def textAt (v : Json) (path : List String) : String :=
  match valueAt v path with
  | .str s => s
  | _ => ""

def intAt (v : Json) (path : List String) : Int :=
  match valueAt v path with
  | .int i => i
  | _ => 0

def listAt (v : Json) (path : List String) : List Json :=
  match valueAt v path with
  | .arr items => items
  | _ => []

def uriOf (params : Json) : Editor.Uri := textAt params ["textDocument", "uri"]

def versionOf (params : Json) : Int := intAt params ["textDocument", "version"]

def lineOf (params : Json) : Nat := (intAt params ["position", "line"]).toNat

/-- An opened document as an action on the workspace. -/
def opening (params : Json) : Workspace.Action :=
  .update (uriOf params) (versionOf params) (textAt params ["textDocument", "text"]).toList

/-- Changes of a document as an action on the workspace. -/
def changing (params : Json) : Workspace.Action :=
  .change (uriOf params) (versionOf params)
    ((listAt params ["contentChanges"]).map fun c => (textAt c ["text"]).toList)

/-! ### Calls -/

structure Server where
  phase : Phase
  workspace : Workspace
  deriving Repr

/-- What becomes of a call. -/
structure Turn where
  server : Server
  pushes : List Push
  /-- `none` if the call is not answered. -/
  outcome : Option (Except Fault Json)

namespace Server

def start (debounce : Nat) : Server := ⟨.fresh, .start debounce⟩

/-- What the server can do. -/
def capabilities : Json :=
  .obj [("completionProvider", .obj []), ("hoverProvider", .bool true),
    ("textDocumentSync", .nat 1)]

/-- The answer to an introduction. -/
def introduction : Json :=
  .obj [("capabilities", capabilities),
    ("serverInfo", .obj [("name", .str programName), ("version", .str programVersion)])]

def greeting : String := programName ++ " server initialized"

/-- Nothing happens. -/
def ignore (s : Server) : Turn := ⟨s, [], none⟩

/-- A call that is refused; one that wants no response is passed over. -/
def refuse (s : Server) (c : Call) (f : Fault) : Turn :=
  ⟨s, [], c.id.map fun _ => .error f⟩

/-- The parameters of a call in their plain form. -/
def paramsOf (shape : Shape) (c : Call) : Except Fault Json :=
  match c.params with
  | none => .error (.invalidParams "Missing params field")
  | some v =>
    match shape.decode v with
    | .ok p => .ok p
    | .error e => .error (.invalidParams e)

/-- Answers a request; a call without an identifier is no request and is passed over. -/
def request (s : Server) (c : Call) (shape : Shape) (f : Json → Turn) : Turn :=
  match c.id with
  | none => s.ignore
  | some _ =>
    match paramsOf shape c with
    | .error e => s.refuse c e
    | .ok p => f p

/-- Takes note of a notification; one with bad parameters is passed over, and one with an
identifier is refused. -/
def notification (s : Server) (c : Call) (shape : Shape) (f : Json → Turn) : Turn :=
  match c.id with
  | some _ => s.refuse c .invalidRequest
  | none =>
    match paramsOf shape c with
    | .error _ => s.ignore
    | .ok p => f p

/-- Something happens only while the server is ready. -/
def whenReady (s : Server) (c : Call) (t : Turn) : Turn :=
  match s.phase with
  | .ready => t
  | .fresh => s.refuse c .notInitialized
  | _ => s.refuse c .invalidRequest

/-- Introduces the client; once is enough. -/
def introduce (s : Server) (c : Call) : Turn :=
  match s.phase with
  | .fresh =>
    s.request c initializeParams fun _ => ⟨{ s with phase := .ready }, [], some (.ok introduction)⟩
  | _ => s.refuse c .invalidRequest

/-- Shuts down, whatever else the call holds. -/
def shutdown (s : Server) (c : Call) : Turn :=
  let s := { s with phase := .stopped }
  match c.id with
  | none => s.ignore
  | some _ =>
    match c.params with
    | some p => s.refuse c (.invalidParams ("Unexpected params: " ++ p.compact))
    | none => ⟨s, [], some (.ok .null)⟩

/-- The JSON of an answer. -/
def answerJson : Workspace.Answer → Json
  | .none => .null
  | .hover h => Json.ofOption (·.toJson) h
  | .completion items => Json.ofOption (fun is => .arr (is.map (·.toJson))) items

/-- Changes the workspace. -/
def change (s : Server) (a : Workspace.Action) : Turn :=
  ⟨{ s with workspace := (s.workspace.act a).1 }, [], none⟩

/-- Answers from the workspace. -/
def consult (s : Server) (a : Workspace.Action) : Turn :=
  ⟨{ s with workspace := (s.workspace.act a).1 }, [],
    some (.ok (answerJson (s.workspace.act a).2))⟩

/-- What a call of a known method does. -/
def handle (s : Server) (c : Call) : Method → Turn
  | .introduce => s.introduce c
  | .exit => ⟨{ s with phase := .exited }, [], none⟩
  | .cancel => s.refuse c .invalidRequest
  | .shutdown => s.whenReady c (s.shutdown c)
  | .initialized =>
    s.whenReady c (s.notification c initializedParams fun _ => ⟨s, [.log greeting], none⟩)
  | .didOpen => s.whenReady c (s.notification c didOpenParams fun p => s.change (opening p))
  | .didChange => s.whenReady c (s.notification c didChangeParams fun p => s.change (changing p))
  | .didClose =>
    s.whenReady c (s.notification c didCloseParams fun p => s.change (.close (uriOf p)))
  | .hover =>
    s.whenReady c (s.request c hoverParams fun p => s.consult (.hover (uriOf p) (lineOf p)))
  | .completion =>
    s.whenReady c (s.request c completionParams fun p =>
      s.consult (.completion (uriOf p) (lineOf p)))
  | .unanswered shape =>
    s.whenReady c (s.request c shape fun _ => s.refuse c .methodNotFound)
  | .passedOver => s.whenReady c (s.refuse c .invalidRequest)

/-- Whether a method may be ignored by whoever does not know it. -/
def isOptionalName (name : String) : Bool := name.toList.take 2 == ['$', '/']

/-- What a call does; `none` if the client has said goodbye before. -/
def receive (s : Server) (c : Call) : Option Turn :=
  if s.phase = .exited then none
  else
    match Method.ofName? c.method with
    | some m => some (s.handle c m)
    | none =>
      if isOptionalName c.method then some s.ignore
      else some (s.refuse c (.unknownMethod c.method))

/-- Whether what is sent reaches the client. -/
def delivers (s : Server) : Bool :=
  match s.phase with
  | .ready => true
  | .stopped => true
  | _ => false

/-- Does the work that is due, and sends the diagnostics that come of it. -/
def settle (s : Server) : Server × List Push :=
  let w := s.workspace.settle
  ({ s with workspace := w },
    if s.delivers then (w.published.drop s.workspace.published.length).map .diagnostics else [])

/-- Lets time pass. -/
def advance (s : Server) (ms : Nat) : Server := { s with workspace := s.workspace.advance ms }

end Server

end AppConfig.Rpc
