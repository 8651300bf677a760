import AppConfig.Rpc.Decoder
import AppConfig.Rpc.Server

/-!
# AppConfig.Rpc.Connection

The server at one end of a byte stream.

* `Connection.feed` — bytes from the client, and what is sent in turn.
* `Connection.finish` — the client sends nothing more.
* A message that cannot be read is answered once and ends the connection, and so does a call after
  the client has said goodbye. From then on nothing is read or sent.
-/

namespace AppConfig.Rpc

/-- What is sent to the client. -/
inductive Sent where
  | response (r : Response)
  | push (p : Push)

namespace Sent

def toJson : Sent → Json
  | .response r => r.toJson
  | .push p => p.toJson

/-- As it stands on the byte stream. -/
def bytes (s : Sent) : Bytes := Wire.frame s.toJson.compactChars

end Sent

/-- What becomes of a message: the server, if it goes on listening, and what is sent. -/
def hear (s : Server) : Message → Option Server × List Sent
  | .response => (some s, [])
  | .call c =>
    match s.receive c with
    | none => (none, [])
    | some t =>
      (some t.server, t.pushes.map .push ++ ((Response.to? c t.outcome).map .response).toList)

/-- The answer to what cannot be read. -/
def complaint (f : Fault) : Sent := .response ⟨.null, .error f⟩

structure Connection where
  server : Server
  decoder : Decoder
  isListening : Bool

namespace Connection

def start (debounce : Nat) : Connection := ⟨.start debounce, .empty, true⟩

/-- Reads all messages that are there. Bytes that are left over when the input has ended are a
fault. -/
def drain (ended : Bool) (s : Server) (d : Decoder) : Connection × List Sent :=
  match h : d.next with
  | .fault f => (⟨s, d, false⟩, [complaint f])
  | .pending d' =>
    if ended && !d'.buffer.isEmpty then (⟨s, d', false⟩, [complaint .parseError])
    else (⟨s, d', !ended⟩, [])
  | .message m d' =>
    have := Decoder.next_length h
    match hear s m with
    | (none, sent) => (⟨s, d', false⟩, sent)
    | (some s', sent) =>
      let r := drain ended s' d'
      (r.1, sent ++ r.2)
termination_by d.buffer.length

/-- Does the work that is due. -/
def settle (c : Connection) : Connection × List Sent :=
  if c.isListening then
    let r := c.server.settle
    ({ c with server := r.1 }, r.2.map .push)
  else (c, [])

/-- Takes bytes, answers the messages in them and does the work that is due. -/
def feed (c : Connection) (bytes : Bytes) : Connection × List Sent :=
  if c.isListening then
    let r := drain false c.server (c.decoder.push bytes)
    let t := r.1.settle
    (t.1, r.2 ++ t.2)
  else (c, [])

/-- Lets time pass and does the work that is due. -/
def advance (c : Connection) (ms : Nat) : Connection × List Sent :=
  settle { c with server := c.server.advance ms }

/-- The end of the input. -/
def finish (c : Connection) : Connection × List Sent :=
  if c.isListening then drain true c.server c.decoder else (c, [])

/-- How long it takes until there is something to do without the client. -/
def delay? (c : Connection) : Option Nat :=
  if c.isListening then c.server.workspace.documents.delay? else none

end Connection

/-- A client's side of a connection: what is sent waits until the client takes it. -/
structure Session where
  connection : Connection
  waiting : List Sent

namespace Session

def start (debounce : Nat) : Session := ⟨.start debounce, []⟩

/-- Adds what is sent in a step of the connection. -/
def after (s : Session) (r : Connection × List Sent) : Session := ⟨r.1, s.waiting ++ r.2⟩

def write (s : Session) (bytes : Bytes) : Session := s.after (s.connection.feed bytes)

def advance (s : Session) (ms : Nat) : Session := s.after (s.connection.advance ms)

def close (s : Session) : Session := s.after s.connection.finish

/-- Waits for `n` messages, but for at most `fuel` timers. -/
def awaitFor : Nat → Nat → Session → Session
  | 0, _, s => s
  | fuel + 1, n, s =>
    if n ≤ s.waiting.length then s
    else
      match s.connection.delay? with
      | none => s
      | some ms => awaitFor fuel n (s.advance ms)

/-- Takes `n` messages. Waits while there are fewer and a timer runs. -/
def take (s : Session) (n : Nat) : List Sent × Session :=
  let s := awaitFor s.connection.server.workspace.documents.timers.length n s
  (s.waiting.take n, { s with waiting := s.waiting.drop n })

end Session

end AppConfig.Rpc
