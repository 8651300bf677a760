import AppConfig.Proofs.Wire.RoundTrip
import AppConfig.Web.Socket

/-!
# AppConfig.Proofs.Web.Bridge

The language server behind a web socket sees what the client says and the client sees what the
server says.

* `inbound_eq` — the bytes for the server are the frames of the client's texts (`payloads`), up to
  the message that ends the connection.
* `outbound_frames`, `outgoing_eq` — each message that the server writes is one text for the client.
* `receiveAll_relays` — a socket that takes messages is its server fed with those frames, one after
  the other.
-/

namespace AppConfig.Rpc

/-- A message of the server as it stands in a frame. -/
def Sent.text (s : Sent) : List Char := s.toJson.compactChars

theorem Sent.text_ne_nil (s : Sent) : s.text ≠ [] := by
  have hobj : ∃ member members, s.toJson = .obj (member :: members) := by
    cases s with
    | response r =>
      obtain ⟨id, outcome⟩ := r
      cases outcome <;> exact ⟨_, _, rfl⟩
    | push p => exact ⟨_, _, rfl⟩
  obtain ⟨⟨key, value⟩, members, hobj⟩ := hobj
  simp [text, hobj, Json.compactChars]

/-- Pieces of the input one after the other. -/
def Connection.feedAll (c : Connection) : List Bytes → Connection × List Sent
  | [] => (c, [])
  | piece :: pieces =>
    let r := c.feed piece
    let t := r.1.feedAll pieces
    (t.1, r.2 ++ t.2)

theorem Connection.feedAll_of_not_listening {c : Connection} (h : c.isListening = false)
    (pieces : List Bytes) : c.feedAll pieces = (c, []) := by
  induction pieces with
  | nil => rfl
  | cons piece pieces ih => simp [feedAll, feed, h, ih]

end AppConfig.Rpc

namespace AppConfig.Web

open Text (utf8)
open Wire (bufferBound)
open Rpc (Connection Sent)

/-! ## To the server -/

def Incoming.payload? : Incoming → Option (List Char)
  | .text payload => some payload
  | _ => none

/-- The texts in front of the first message that ends the connection. -/
def payloads (ms : List Incoming) : List (List Char) :=
  (ms.takeWhile (!·.isLast)).filterMap Incoming.payload?

theorem payloads_cons (m : Incoming) (ms : List Incoming) :
    payloads (m :: ms) = if m.isLast then [] else m.payload?.toList ++ payloads ms := by
  by_cases hlast : m.isLast = true
  · simp [payloads, hlast]
  · cases hp : m.payload? with
    | none => simp [payloads, hlast, hp]
    | some p => simp [payloads, hlast, hp]

theorem inbound_eq (ms : List Incoming) : inbound ms = (payloads ms).flatMap Wire.frame := by
  induction ms with
  | nil => rfl
  | cons m ms ih =>
    rw [inbound, payloads_cons]
    split
    · rfl
    · rw [List.flatMap_append, ih]
      cases m <;> simp [Incoming.bytes, Incoming.payload?]

/-! ## To the client -/

theorem bodies_append_ended (texts : List (List Char)) :
    bodies (texts.map .body ++ [.ended]) = texts := by
  induction texts with
  | nil => rfl
  | cons text texts ih => simp [bodies, ih]

/-- A message that can be carried in a frame: it is not empty, and a buffer can have its length. -/
def Framable (text : List Char) : Prop := text ≠ [] ∧ (utf8 text).length < bufferBound

theorem outbound_frames {texts : List (List Char)} (h : ∀ t ∈ texts, Framable t) :
    outbound (texts.flatMap Wire.frame) = texts := by
  have hcalls := Wire.calls_frames fun t ht => (h t ht).2
  have hall : texts.filter (· ≠ []) = texts := by
    rw [List.filter_eq_self]
    intro t ht
    simpa using (h t ht).1
  rw [outbound, hcalls.readMessages_eq, Wire.answers_map_fst, hall, bodies_append_ended]

theorem outgoing_eq {sent : List Sent} (h : ∀ x ∈ sent, (utf8 x.text).length < bufferBound) :
    Socket.outgoing sent = sent.map (.text ·.text) := by
  have hbytes : sent.flatMap Sent.bytes = (sent.map Sent.text).flatMap Wire.frame := by
    rw [List.flatMap_map]
    rfl
  have hframable : ∀ t ∈ sent.map Sent.text, Framable t := by
    intro t ht
    obtain ⟨x, hx, rfl⟩ := List.mem_map.mp ht
    exact ⟨x.text_ne_nil, h x hx⟩
  rw [Socket.outgoing, hbytes, outbound_frames hframable, List.map_map]
  rfl

/-! ## Both ways -/

namespace Socket

/-- Messages one after the other. -/
def receiveAll (s : Socket) : List Incoming → Socket × List Outgoing
  | [] => (s, [])
  | m :: ms =>
    let r := s.receive m
    let t := r.1.receiveAll ms
    (t.1, r.2 ++ t.2)

end Socket

def Outgoing.text? : Outgoing → Option (List Char)
  | .text payload => some payload
  | .pong _ => none

theorem receiveAll_of_closed {s : Socket} (h : s.isOpen = false) (ms : List Incoming) :
    s.receiveAll ms = (s, []) := by
  induction ms with
  | nil => rfl
  | cons m ms ih => simp [Socket.receiveAll, Socket.receive, h, ih]

/-- The socket and the client's texts on one side, the server and its messages on the other: the
server is the same, and each of its messages is one text (a buffer having room for each). -/
def Relays (r : Socket × List Outgoing) (t : Connection × List Sent) : Prop :=
  r.1.connection = t.1 ∧
    ((∀ x ∈ t.2, (utf8 x.text).length < bufferBound) →
      r.2.filterMap Outgoing.text? = t.2.map Sent.text)

/-- Nothing is relayed behind a message that closes the socket. -/
theorem relays_of_closing {s : Socket} {m : Incoming}
    (hreceive : s.receive m = ({ s with isOpen := false }, [])) (ms : List Incoming) :
    Relays (s.receiveAll (m :: ms)) (s.connection, []) := by
  rw [Socket.receiveAll, hreceive]
  simp only [receiveAll_of_closed (s := { s with isOpen := false }) rfl ms]
  exact ⟨rfl, fun _ => rfl⟩

/-- A text is a piece of the server's input. -/
theorem receive_text {s : Socket} (h : s.isOpen = true) (hl : s.connection.isListening = true)
    (p : List Char) :
    s.receive (.text p) =
      ({ s with connection := (s.connection.feed (Wire.frame p)).1 },
        Socket.outgoing (s.connection.feed (Wire.frame p)).2) := by
  have hin : inbound [.text p] = Wire.frame p := by simp [inbound, Incoming.isLast, Incoming.bytes]
  simp [Socket.receive, h, hl, hin]

/-- A socket that takes messages is its server fed with the frames of their texts. A server that
does not listen any more is fed in vain; the socket then closes, and the rest is lost on both. -/
theorem receiveAll_relays {s : Socket} (h : s.isOpen = true) (ms : List Incoming) :
    Relays (s.receiveAll ms) (s.connection.feedAll ((payloads ms).map Wire.frame)) := by
  induction ms generalizing s with
  | nil => exact ⟨rfl, fun _ => rfl⟩
  | cons m ms ih =>
    rw [payloads_cons]
    cases m with
    | text p =>
      cases hl : s.connection.isListening with
      | false =>
        rw [Connection.feedAll_of_not_listening hl]
        exact relays_of_closing (by simp [Socket.receive, h, hl]) ms
      | true =>
        obtain ⟨hserver, htexts⟩ :=
          ih (s := { s with connection := (s.connection.feed (Wire.frame p)).1 }) h
        rw [Socket.receiveAll, receive_text h hl]
        refine ⟨hserver, fun hfit => ?_⟩
        have hfit := List.forall_mem_append.mp hfit
        have hout :
            (Socket.outgoing (s.connection.feed (Wire.frame p)).2).filterMap Outgoing.text? =
              (s.connection.feed (Wire.frame p)).2.map Sent.text := by
          rw [outgoing_eq hfit.1, List.filterMap_map]
          exact congrFun List.filterMap_eq_map _
        simp only [List.filterMap_append]
        rw [hout, htexts hfit.2]
        exact List.map_append.symm
    | binary b =>
      have hreceive : s.receive (.binary b) = (s, []) := by simp [Socket.receive, h]
      rw [Socket.receiveAll, hreceive]
      exact ih h
    | ping b =>
      have hreceive : s.receive (.ping b) = (s, [.pong b]) := by simp [Socket.receive, h]
      rw [Socket.receiveAll, hreceive]
      exact ih h
    | pong b =>
      have hreceive : s.receive (.pong b) = (s, []) := by simp [Socket.receive, h]
      rw [Socket.receiveAll, hreceive]
      exact ih h
    | close => exact relays_of_closing (by simp [Socket.receive, h]) ms
    | failure => exact relays_of_closing (by simp [Socket.receive, h]) ms

/-- **The socket is transparent.** Whatever a client sends, the bytes for the server are read as its
texts that are not empty, up to the message that ends the connection; whatever messages the server
writes, the client gets them, one text for each. So a socket is its server, fed with the frames of
the client's texts and answering with the bodies of its own. -/
theorem bridge_transparent {ms : List Incoming} {texts : List (List Char)}
    (hin : ∀ p ∈ payloads ms, (utf8 p).length < bufferBound) (hout : ∀ t ∈ texts, Framable t) :
    Wire.readMessages (inbound ms) = ((payloads ms).filter (· ≠ [])).map .body ++ [.ended] ∧
    outbound (texts.flatMap Wire.frame) = texts ∧
    ∀ s : Socket, s.isOpen = true →
      Relays (s.receiveAll ms) (s.connection.feedAll ((payloads ms).map Wire.frame)) := by
  refine ⟨?_, outbound_frames hout, fun s hs => receiveAll_relays hs ms⟩
  rw [inbound_eq, (Wire.calls_frames hin).readMessages_eq, Wire.answers_map_fst]

/-- Frames that are no texts in between, an empty text, and a text behind the close. -/
def brokenTalk : List Incoming :=
  [.text "é".toList, .binary [0xFF], .text [], .ping [1], .text "[1]\n".toList, .close,
    .text "late".toList]

/-- Two messages of the server, one of which looks like a header. -/
def headerTalk : List (List Char) := ["Content-Length: 1\r\n\r\n".toList, "日本".toList]

theorem bridge_transparent_brokenTalk :
    (∀ p ∈ payloads brokenTalk, (utf8 p).length < bufferBound) ∧ (∀ t ∈ headerTalk, Framable t) ∧
    Wire.readMessages (inbound brokenTalk) = [.body "é".toList, .body "[1]\n".toList, .ended] ∧
    outbound (headerTalk.flatMap Wire.frame) = headerTalk ∧
    Relays ((Socket.start 300).receiveAll brokenTalk) ((Connection.start 300).feedAll
      [Wire.frame "é".toList, Wire.frame [], Wire.frame "[1]\n".toList]) := by
  have hin : ∀ p ∈ payloads brokenTalk, (utf8 p).length < bufferBound := by decide
  have hout : ∀ t ∈ headerTalk, Framable t := by
    simp only [Framable]
    decide
  obtain ⟨hread, hwritten, hrelays⟩ := bridge_transparent hin hout
  exact ⟨hin, hout, hread, hwritten, hrelays (.start 300) rfl⟩

end AppConfig.Web
