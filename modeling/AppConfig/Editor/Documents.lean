import AppConfig.Editor.Completion
import AppConfig.Editor.Hover
import AppConfig.Text.Line

/-!
# AppConfig.Editor.Documents

The documents that an editor has open, and the requests to validate them.

* `Store` — the latest version and text of each open document.
* `Documents` — the store, a clock, the timers that delay validation, and the queue of requests.
* An update starts a timer; when the timer runs out, a request enters the queue. A close puts its
  request on the queue at once. Timers are never taken back: a request for a version that is no
  longer the latest is told apart later, by whoever reads the queue.
-/

namespace AppConfig.Editor

abbrev Uri := String

structure Document where
  version : Int
  content : List Char
  deriving DecidableEq, Repr

namespace Document

/-- A line by its number, counted from zero. -/
def line? (d : Document) (n : Nat) : Option (List Char) := Text.line? d.content n

end Document

/-- Open documents; each has one entry. -/
structure Store where
  entries : List (Uri × Document)
  deriving Repr

namespace Store

def empty : Store := ⟨[]⟩

def get? (s : Store) (uri : Uri) : Option Document := s.entries.lookup uri

def erase (s : Store) (uri : Uri) : Store := ⟨s.entries.filter (·.1 != uri)⟩

def put (s : Store) (uri : Uri) (d : Document) : Store := ⟨(uri, d) :: (s.erase uri).entries⟩

@[simp] theorem get?_empty (uri : Uri) : empty.get? uri = none := rfl

theorem get?_erase (s : Store) (uri other : Uri) :
    (s.erase uri).get? other = if other = uri then none else s.get? other := by
  obtain ⟨entries⟩ := s
  simp only [get?, erase]
  induction entries with
  | nil => simp
  | cons e es ih =>
    obtain ⟨k, d⟩ := e
    by_cases hk : k = uri
    · subst hk
      by_cases ho : other = k
      · subst ho; simpa using ih
      · have hb : (other == k) = false := by simpa using ho
        simpa [List.lookup_cons, hb, ho] using ih
    · by_cases ho : other = k
      · subst ho; simp [hk]
      · have hb : (other == k) = false := by simpa using ho
        simpa [List.lookup_cons, hk, hb] using ih

theorem get?_put (s : Store) (uri other : Uri) (d : Document) :
    (s.put uri d).get? other = if other = uri then some d else s.get? other := by
  by_cases h : other = uri
  · subst h; simp [get?, put]
  · have hb : (other == uri) = false := by simpa using h
    have he := get?_erase s uri other
    simp only [get?, h, if_false] at he ⊢
    simp [put, List.lookup_cons, hb, he]

end Store

/-- Work for whoever validates. -/
inductive Request where
  /-- Validate a document if this is still its latest version. -/
  | validate (uri : Uri) (version : Int)
  /-- Take back what was published for a closed document. -/
  | clear (uri : Uri)
  deriving DecidableEq, Repr

/-- A delayed request to validate. -/
structure Timer where
  due : Nat
  uri : Uri
  version : Int
  deriving DecidableEq, Repr

def Timer.request (t : Timer) : Request := .validate t.uri t.version

structure Documents where
  /-- How long a request to validate is delayed, in milliseconds. -/
  debounce : Nat
  clock : Nat
  store : Store
  /-- In the order of the updates that started them. One delay holds for all, so this is also the
  order in which they run out. -/
  timers : List Timer
  queue : List Request
  deriving Repr

namespace Documents

def start (debounce : Nat) : Documents := ⟨debounce, 0, .empty, [], []⟩

/-- Opens a document, or replaces its version and text. -/
def update (d : Documents) (uri : Uri) (version : Int) (content : List Char) : Documents :=
  { d with
    store := d.store.put uri ⟨version, content⟩
    timers := d.timers ++ [⟨d.clock + d.debounce, uri, version⟩] }

/-- Applies changes, each of which holds a whole text: the last one counts. -/
def change (d : Documents) (uri : Uri) (version : Int) (texts : List (List Char)) : Documents :=
  match texts.getLast? with
  | some content => d.update uri version content
  | none => d

/-- Removes a document, and asks to take back what was published for it. -/
def close (d : Documents) (uri : Uri) : Documents :=
  { d with store := d.store.erase uri, queue := d.queue ++ [.clear uri] }

def get? (d : Documents) (uri : Uri) : Option Document := d.store.get? uri

/-- Whether a version is the latest one of an open document. -/
def isCurrent (d : Documents) (uri : Uri) (version : Int) : Bool :=
  (d.get? uri).any (·.version == version)

/-- Lets time pass. -/
def advance (d : Documents) (ms : Nat) : Documents := { d with clock := d.clock + ms }

/-- Moves the requests whose time has come to the queue. -/
def fireDue (d : Documents) : Documents :=
  { d with
    timers := d.timers.filter (d.clock < ·.due)
    queue := d.queue ++ (d.timers.filter (·.due ≤ d.clock)).map Timer.request }

/-- How long it takes until the next timer runs out. -/
def delay? (d : Documents) : Option Nat := d.timers.head?.map (·.due - d.clock)

/-- Takes the requests that wait. -/
def takeQueue (d : Documents) : List Request × Documents := (d.queue, { d with queue := [] })

/-- The hover for a line of a document. -/
def hover (d : Documents) (uri : Uri) (line : Nat) : Option Hover :=
  match d.get? uri with
  | none => none
  | some doc =>
    match doc.line? line with
    | none => none
    | some text => hoverForLine text line

/-- The items offered on a line of a document; a line beyond the last one counts as empty. -/
def completion (d : Documents) (uri : Uri) (line : Nat) : Option (List CompletionItem) :=
  match d.get? uri with
  | none => none
  | some doc => some (completionItems ((doc.line? line).getD []))

end Documents

end AppConfig.Editor
