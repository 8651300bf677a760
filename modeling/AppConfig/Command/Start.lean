import AppConfig.Command.Check
import AppConfig.Command.Help
import AppConfig.Command.Invocation
import AppConfig.Command.Serve
import AppConfig.Log
import AppConfig.Net.Endpoint
import AppConfig.Program
import AppConfig.Settings.EnvFile
import AppConfig.Settings.Telemetry

/-!
# AppConfig.Command.Start

A run of the program from its environment, its files and its arguments, up to the point where it
either is done or has to talk to a client.

* `Outcome` — exit code, output, and what is written beside it.
* `Start` — a finished run, or a server that is to run on standard input or on a socket.
* `start` — the run.
-/

namespace AppConfig.Command

structure Outcome where
  exit : Nat
  output : String
  notices : List Notice
  deriving Repr

/-- What surrounds a server: the notices before it starts and after it stops. -/
structure Frame where
  before : List Notice
  after : List Notice
  deriving Repr

inductive Start where
  | finished (outcome : Outcome)
  | stdio (settings : ServerSettings) (frame : Frame)
  | socket (address : Net.Address) (port : Nat) (settings : ServerSettings) (frame : Frame)
  deriving Repr

/-- The file whose variables are added to the environment. -/
def envFileName : Bytes := Text.utf8 ".env".toList

/-- The environment with the variables of the file in the working directory. -/
def fullEnvironment (env : Environment) (disk : Disk) : Environment :=
  match disk envFileName with
  | .ok content => EnvFile.apply env content
  | .error _ => env

/-- Colours are used only when they are asked for, since output goes to no terminal. -/
def colorWanted (env : Environment) : Bool := (env.get? "CLICOLOR_FORCE").any (· != "0")

/-! ### Telemetry -/

/-- Why traces cannot be exported to an endpoint. An empty one stands for the usual one. -/
def exportFault? (endpoint : String) : Option Error :=
  if endpoint.isEmpty then none
  else
    match Net.checkEndpoint endpoint.toList with
    | .ok () => none
    | .error e =>
      some (.telemetry ("Failed to build OTLP exporter: invalid URI " ++ endpoint ++ ". Reason " ++
        e.message))

structure Telemetry where
  exporting : Bool
  notices : List Notice

def telemetryTarget : String := "config_lsp::telemetry"

/-- Without an exporter, only log records are written. -/
def logsOnly : Telemetry :=
  ⟨false, [.info telemetryTarget "Tracing initialized (stderr only, OpenTelemetry disabled)"]⟩

def startTelemetry (settings : TelemetrySettings) : Telemetry :=
  if settings.enabled then
    match exportFault? settings.endpoint with
    | none =>
      ⟨true, [.info telemetryTarget
        ("OpenTelemetry initialized with endpoint: " ++ settings.endpoint)]⟩
    | some e =>
      ⟨false, .text ("Failed to initialize OpenTelemetry: " ++ e.message ++
        ". Falling back to stderr-only logging.\n") :: logsOnly.notices⟩
  else logsOnly

/-- What is written when telemetry stops. -/
def stopTelemetry (t : Telemetry) : List Notice :=
  if t.exporting then [.info "config_lsp::telemetry::shutdown" "Shutting down telemetry..."]
  else []

/-! ### Commands -/

/-- What is written about an error that ends the program. -/
def errorText (e : Error) : String :=
  "Error: " ++ e.message ++ "\n" ++
    match e.cause? with
    | some cause => "\nCaused by:\n    " ++ cause ++ "\n"
    | none => ""

/-- The record about a text that cannot be read. -/
def parseRecords (text : List Char) : List Notice :=
  let body := Text.dropBom text
  if Text.isBlank body then []
  else
    match parse body with
    | .ok _ => []
    | .error f =>
      let line := match f.line? with
        | some n => "Some(" ++ toString n ++ ")"
        | none => "None"
      [.log ⟨.debug, "config_lsp::validation", "document failed to parse", [("line", .str line)]⟩]

/-- The records of checking files, up to the first that cannot be read. -/
def checkRecords (disk : Disk) : List Bytes → List Notice
  | [] => []
  | path :: paths =>
    match readText disk path with
    | .error _ => []
    | .ok text => parseRecords text ++ checkRecords disk paths

/-- Checking files as a whole run: the exit code tells whether an error was found. -/
def runCheck (env : Environment) (disk : Disk) (telemetry : Telemetry) (files : List Bytes)
    (format : ReportFormat) : Outcome :=
  let opening := telemetry.notices ++ checkRecords disk files
  let closing := stopTelemetry telemetry
  match check disk format (colorWanted env) files with
  | .error e => ⟨1, "", opening ++ closing ++ [.text (errorText e)]⟩
  | .ok result => ⟨if result.hasErrors then 1 else 0, result.output, opening ++ closing⟩

def stdioTarget : String := "config_lsp::commands::lsp"

/-- The notices around a server on standard input. -/
def stdioFrame (telemetry : Telemetry) (settings : ServerSettings) : Frame where
  before := telemetry.notices ++
    [.log ⟨.info, stdioTarget, "Starting stdio language server",
      [("debounce_ms", .nat settings.debounce)]⟩]
  after := .info stdioTarget "Language server stopped" :: stopTelemetry telemetry

/-- What follows from arguments that ask for no command. -/
def usageOutcome : UsageFault → Outcome
  | .versionWanted => ⟨0, programName ++ " " ++ programVersion ++ "\n", []⟩
  | .helpWanted topic detailed => ⟨0, helpText topic detailed, []⟩
  | .nothingGiven => ⟨2, "", [.text (helpText .program false)]⟩
  | _ => ⟨2, "", [.text usageHint]⟩

/-- A command in a full environment. -/
def startCommand (env : Environment) (disk : Disk) : Invocation → Start
  | .check files format =>
    .finished (runCheck env disk (startTelemetry (.ofEnvironment env)) files format)
  | .lsp debounce =>
    let settings := (ServerSettings.ofEnvironment env).withDebounce debounce
    .stdio settings (stdioFrame (startTelemetry (.ofEnvironment env)) settings)
  | .serve host port debounce =>
    let telemetry := startTelemetry (.ofEnvironment env)
    let settings := (ServerSettings.ofEnvironment env).withDebounce debounce
    match Net.Address.parse? host.toList with
    | none =>
      .finished ⟨1, "", telemetry.notices ++ stopTelemetry telemetry ++
        [.text (errorText (.invalidInput ("invalid host address: " ++ host)))]⟩
    | some address =>
      .socket address port settings ⟨telemetry.notices ++
        [.text (banner (colorWanted env) address port settings),
          .info "config_lsp::server" ("Starting LSP WebSocket server on ws://" ++
            address.renderWithPort port ++ "/lsp")], stopTelemetry telemetry⟩

/-- The filter of an environment. -/
def logFilter (env : Environment) : LogFilter := .ofSetting (env.get? "RUST_LOG")

/-- Leaves out the records that the filter holds back. -/
def Start.filtered (filter : LogFilter) : Start → Start
  | .finished o => .finished { o with notices := o.notices.filter (·.passes filter) }
  | .stdio settings f => .stdio settings ⟨f.before.filter (·.passes filter),
      f.after.filter (·.passes filter)⟩
  | .socket address port settings f => .socket address port settings
      ⟨f.before.filter (·.passes filter), f.after.filter (·.passes filter)⟩

/-- A run of the program. -/
def start (env : Environment) (disk : Disk) (args : List Bytes) : Start :=
  let env := fullEnvironment env disk
  match Invocation.parse args with
  | .error fault => .finished (usageOutcome fault)
  | .ok invocation => (startCommand env disk invocation).filtered (logFilter env)

/-- The variables that a run asks for. -/
def settingNames : List String := ["RUST_LOG", "LOG_FORMAT", "CLICOLOR_FORCE",
  ServerSettings.debounceVariable, "OTEL_ENABLED", "OTEL_EXPORTER_OTLP_ENDPOINT",
  "OTEL_EXPORTER_OTLP_HEADERS", "OTEL_SERVICE_NAME"]

/-- The files that a run may read. -/
def filesOf (args : List Bytes) : List Bytes :=
  envFileName ::
    match Invocation.parse args with
    | .ok (.check files _) => files
    | _ => []

/-- The outcome of a run whose standard input is empty. A socket that nobody connects to leaves
only its announcement. -/
def Start.alone : Start → Outcome
  | .finished o => o
  | .stdio _ f => ⟨0, "", f.before ++ f.after⟩
  | .socket _ _ _ f => ⟨0, "", f.before⟩

end AppConfig.Command
