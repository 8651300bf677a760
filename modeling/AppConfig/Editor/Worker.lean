import AppConfig.Editor.Diagnostic
import AppConfig.Editor.Documents

/-!
# AppConfig.Editor.Worker

The worker that takes requests from the queue and publishes diagnostics.

* `Workspace` — the documents, what the worker is at, and all that it has published.
* `Workspace.work` — one step of the worker: take a request, look whether its version is the
  latest, take a snapshot of the document, publish. Between two of these steps anything may happen
  to the documents.
* `Workspace.Step` — a step of anyone: an edit, a close, a timer, the clock, the worker.
* `Workspace.settle` — all work that is due, in order: the timers that have run out, then the
  worker until nothing is left.
-/

namespace AppConfig.Editor

/-- What the worker is at. -/
inductive Worker where
  | idle
  | received (request : Request)
  /-- The requested version is the latest one. -/
  | confirmed (uri : Uri)
  /-- A snapshot is taken. -/
  | holding (uri : Uri) (document : Document)
  deriving DecidableEq, Repr

/-- Diagnostics as they are published. -/
structure Publication where
  uri : Uri
  /-- `none` when they are taken back. -/
  version : Option Int
  diagnostics : List Diagnostic
  deriving DecidableEq, Repr

namespace Publication

/-- The diagnostics of a document. -/
def ofDocument (uri : Uri) (d : Document) : Publication :=
  ⟨uri, some d.version, diagnose d.content⟩

/-- No diagnostics for a closed document. -/
def cleared (uri : Uri) : Publication := ⟨uri, none, []⟩

end Publication

structure Workspace where
  documents : Documents
  worker : Worker
  /-- In the order of publication. -/
  published : List Publication
  deriving Repr

namespace Workspace

def start (debounce : Nat) : Workspace := ⟨.start debounce, .idle, []⟩

def update (w : Workspace) (uri : Uri) (version : Int) (content : List Char) : Workspace :=
  { w with documents := w.documents.update uri version content }

def change (w : Workspace) (uri : Uri) (version : Int) (texts : List (List Char)) : Workspace :=
  { w with documents := w.documents.change uri version texts }

def close (w : Workspace) (uri : Uri) : Workspace :=
  { w with documents := w.documents.close uri }

def advance (w : Workspace) (ms : Nat) : Workspace :=
  { w with documents := w.documents.advance ms }

def publish (w : Workspace) (p : Publication) : Workspace :=
  { w with worker := .idle, published := w.published ++ [p] }

/-- One step of the worker; nothing happens when it has nothing to do. -/
def work (w : Workspace) : Workspace :=
  match w.worker with
  | .idle =>
    match w.documents.queue with
    | [] => w
    | r :: rest => { w with worker := .received r, documents := { w.documents with queue := rest } }
  | .received (.validate uri version) =>
    if w.documents.isCurrent uri version then { w with worker := .confirmed uri }
    else { w with worker := .idle }
  | .received (.clear uri) => w.publish (.cleared uri)
  | .confirmed uri =>
    match w.documents.get? uri with
    | some d => { w with worker := .holding uri d }
    | none => { w with worker := .idle }
  | .holding uri d => w.publish (.ofDocument uri d)

/-- How many steps the worker takes at most until it has nothing to do. -/
def workload (w : Workspace) : Nat :=
  4 * w.documents.queue.length +
    match w.worker with
    | .idle => 0
    | .received _ => 3
    | .confirmed _ => 2
    | .holding _ _ => 1

/-- A timer runs out: `before` and `behind` are the other timers. -/
def fire (w : Workspace) (before : List Timer) (t : Timer) (behind : List Timer) : Workspace :=
  { w with documents :=
    { w.documents with timers := before ++ behind, queue := w.documents.queue ++ [t.request] } }

/-- What happens in a step. -/
inductive Event where
  | updated (uri : Uri) (version : Int) (content : List Char)
  | closed (uri : Uri)
  | fired (timer : Timer)
  | passed (ms : Nat)
  | worked
  deriving DecidableEq, Repr

/-- A step. Any timer may run out at any time. -/
inductive Step : Workspace → Event → Workspace → Prop where
  | update (w : Workspace) (uri : Uri) (version : Int) (content : List Char) :
      Step w (.updated uri version content) (w.update uri version content)
  | close (w : Workspace) (uri : Uri) : Step w (.closed uri) (w.close uri)
  | fire (w : Workspace) (before : List Timer) (t : Timer) (behind : List Timer) :
      w.documents.timers = before ++ t :: behind → Step w (.fired t) (w.fire before t behind)
  | pass (w : Workspace) (ms : Nat) : Step w (.passed ms) (w.advance ms)
  | work (w : Workspace) : w.workload ≠ 0 → Step w .worked w.work

/-- The worker's steps, a given number of them. -/
def workFor : Nat → Workspace → Workspace
  | 0, w => w
  | n + 1, w => workFor n w.work

/-- Fires the timers that have run out. -/
def fireDue (w : Workspace) : Workspace := { w with documents := w.documents.fireDue }

/-- Does all work that is due. -/
def settle (w : Workspace) : Workspace := workFor w.fireDue.workload w.fireDue

/-- What the client of a workspace does. -/
inductive Action where
  | update (uri : Uri) (version : Int) (content : List Char)
  | change (uri : Uri) (version : Int) (texts : List (List Char))
  | close (uri : Uri)
  | hover (uri : Uri) (line : Nat)
  | completion (uri : Uri) (line : Nat)
  | advance (ms : Nat)
  | nothing
  deriving DecidableEq, Repr

inductive Answer where
  | none
  | hover (h : Option Hover)
  | completion (items : Option (List CompletionItem))
  deriving DecidableEq, Repr

/-- What an action changes and answers. -/
def act (w : Workspace) : Action → Workspace × Answer
  | .update uri version content => (w.update uri version content, .none)
  | .change uri version texts => (w.change uri version texts, .none)
  | .close uri => (w.close uri, .none)
  | .hover uri line => (w, .hover (w.documents.hover uri line))
  | .completion uri line => (w, .completion (w.documents.completion uri line))
  | .advance ms => (w.advance ms, .none)
  | .nothing => (w, .none)

/-- An action, then all work that is due. -/
def perform (w : Workspace) (a : Action) : Workspace × Answer :=
  ((w.act a).1.settle, (w.act a).2)

end Workspace

end AppConfig.Editor
