import AppConfig.Command.Start
import AppConfig.Rpc.Connection

/-!
# AppConfig.Main

The command line program: collects variables, files and arguments, asks `Command.start` what is to
be done, and carries it out.

A language server on standard input is a `Rpc.Connection` that is fed what arrives and told what
time it is. A server on a socket is announced only: connections are left to a transport that feeds
`Web.Socket`.
-/

namespace AppConfig.Run

/-- Why the system did not read a file. -/
def faultOf : IO.Error → ReadFault
  | .noFileOrDirectory _ _ _ => .notFound
  | .inappropriateType _ 20 _ => .notDirectory
  | .inappropriateType _ 21 _ => .isDirectory
  | e => .other (toString e)

def readPath (path : Bytes) : IO (Except ReadFault Bytes) := do
  match Text.utf8? path with
  | none => return .error .notFound
  | some name =>
    match ← (IO.FS.readBinFile (String.ofList name)).toBaseIO with
    | .ok content => return .ok content.toList
    | .error e => return .error (faultOf e)

/-- The disk as far as some paths show it. -/
def readDisk (paths : List Bytes) : IO Disk := do
  let found ← paths.mapM fun path => return (path, ← readPath path)
  return fun path => (found.lookup path).getD (.error .notFound)

def readEnvironment : IO Environment := do
  let found ← Command.settingNames.mapM fun name => return (name, ← IO.getEnv name)
  return found.filterMap fun (name, value) => value.map (name, ·)

def writeNotices (json : Bool) (notices : List Notice) : IO Unit := do
  let errors ← IO.getStderr
  notices.forM fun n => errors.putStr (n.render json)
  errors.flush

def send (output : IO.FS.Stream) (sent : List Rpc.Sent) : IO Unit := do
  sent.forM fun s => output.write ⟨s.bytes.toArray⟩
  output.flush

/-- How long the server looks away between two looks at its input, in milliseconds. -/
def patience : UInt32 := 5

/-- What has arrived and is not read yet. -/
structure Inbox where
  bytes : ByteArray
  ended : Bool

/-- Moves the input to the inbox, byte by byte since a longer read would wait for all its bytes. -/
partial def fill (input : IO.FS.Stream) (inbox : IO.Ref Inbox) : IO Unit := do
  let b ← input.read 1
  if b.isEmpty then inbox.modify fun i => { i with ended := true }
  else
    inbox.modify fun i => { i with bytes := i.bytes ++ b }
    fill input inbox

/-- Talks to the client until it is done. `seen` is when the clock was last looked at. -/
partial def converse (output : IO.FS.Stream) (inbox : IO.Ref Inbox) (seen : Nat)
    (c : Rpc.Connection) : IO Unit := do
  if !c.isListening then return
  let now ← IO.monoMsNow
  let (c, sent) := c.advance (now - seen)
  send output sent
  let arrived ← inbox.modifyGet fun i => (i, { i with bytes := .empty })
  if !arrived.bytes.isEmpty then
    let (c, sent) := c.feed arrived.bytes.toList
    send output sent
    converse output inbox now c
  else if arrived.ended then send output c.finish.2
  else
    IO.sleep patience
    converse output inbox now c

def serveStdio (settings : ServerSettings) : IO Unit := do
  let inbox ← IO.mkRef (Inbox.mk .empty false)
  discard (IO.asTask (fill (← IO.getStdin) inbox) .dedicated)
  converse (← IO.getStdout) inbox (← IO.monoMsNow) (.start settings.debounce)

def carryOut (json : Bool) : Command.Start → IO UInt32
  | .finished outcome => do
    let output ← IO.getStdout
    output.putStr outcome.output
    output.flush
    writeNotices json outcome.notices
    return outcome.exit.toUInt32
  | .stdio settings surroundings => do
    writeNotices json surroundings.before
    serveStdio settings
    writeNotices json surroundings.after
    return 0
  | .socket _ _ _ surroundings => do
    writeNotices json surroundings.before
    writeNotices json (surroundings.after ++
      [.text (Command.errorText (.server "no transport for sockets"))])
    return 1

/-- A whole run. -/
def run (args : List Bytes) : IO UInt32 := do
  let disk ← readDisk (Command.filesOf args)
  let env ← readEnvironment
  let settings := TelemetrySettings.ofEnvironment (Command.fullEnvironment env disk)
  carryOut settings.jsonLogs (Command.start env disk args)

end AppConfig.Run

def main (args : List String) : IO UInt32 :=
  AppConfig.Run.run (args.map fun a => AppConfig.Text.utf8 a.toList)
