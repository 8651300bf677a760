import AppConfig.Rpc.Connection

/-!
# AppConfig.Web.Socket

The language server behind a web socket. The socket carries whole messages, while the server
reads and writes a byte stream, so each message gets its frame on the way in and loses it on the
way out.

* `inbound` — the bytes that the server reads.
* `outbound` — the texts that the client gets for the bytes that the server writes.
* `Socket` — the state of one connection and a step for each message.
-/

namespace AppConfig.Web

/-- What a client sends. -/
inductive Incoming where
  | text (payload : List Char)
  | binary (payload : Bytes)
  | ping (payload : Bytes)
  | pong (payload : Bytes)
  | close
  /-- The transport fails. -/
  | failure
  deriving DecidableEq, Repr

/-- What a client gets. -/
inductive Outgoing where
  | text (payload : List Char)
  | pong (payload : Bytes)
  deriving DecidableEq, Repr

/-- Whether a message ends the connection. -/
def Incoming.isLast : Incoming → Bool
  | .close => true
  | .failure => true
  | _ => false

/-- The bytes of one message for the server; only texts are for the server. -/
def Incoming.bytes : Incoming → Bytes
  | .text payload => Wire.frame payload
  | _ => []

/-- The bytes that the server reads: the texts in their frames, up to the end of the connection. -/
def inbound : List Incoming → Bytes
  | [] => []
  | m :: ms => if m.isLast then [] else m.bytes ++ inbound ms

/-- The bodies of what was read, up to what stops the reading. -/
def bodies : List Wire.Reading → List (List Char)
  | .body text :: rest => text :: bodies rest
  | _ => []

/-- The texts that the client gets: one for each message that the server writes. -/
def outbound (output : Bytes) : List (List Char) := bodies (Wire.readMessages output)

structure Socket where
  connection : Rpc.Connection
  isOpen : Bool

namespace Socket

def start (debounce : Nat) : Socket := ⟨.start debounce, true⟩

/-- The frames for what the server sends. -/
def outgoing (sent : List Rpc.Sent) : List Outgoing :=
  (outbound (sent.flatMap Rpc.Sent.bytes)).map .text

/-- What a message changes, and what the client gets. When the server does not listen any more,
the next text finds that out and ends the connection. -/
def receive (s : Socket) (m : Incoming) : Socket × List Outgoing :=
  if s.isOpen then
    match m with
    | .text _ =>
      if s.connection.isListening then
        let r := s.connection.feed (inbound [m])
        ({ s with connection := r.1 }, outgoing r.2)
      else ({ s with isOpen := false }, [])
    | .ping payload => (s, [.pong payload])
    | .close => ({ s with isOpen := false }, [])
    | .failure => ({ s with isOpen := false }, [])
    | _ => (s, [])
  else (s, [])

/-- Lets time pass. -/
def advance (s : Socket) (ms : Nat) : Socket × List Outgoing :=
  if s.isOpen then
    let r := s.connection.advance ms
    ({ s with connection := r.1 }, outgoing r.2)
  else (s, [])

end Socket

end AppConfig.Web
