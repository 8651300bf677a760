import AppConfig.Files
import AppConfig.Report
import AppConfig.Text.Digits

/-!
# AppConfig.Command.Invocation

The command line: a command name, then options and files in any order.

* `Invocation` — what is asked for.
* `Verb` — the commands, and what each accepts.
* `UsageFault` — why nothing can be made of the arguments, or that help or the version is wanted.
* `Invocation.parse` — reading arguments. An option takes its value from behind `=`, from the same
  argument (`-fjson`) or from the next one; what it took is checked when the next option or file
  begins, or at the end.
-/

namespace AppConfig

inductive Invocation where
  | check (files : List Bytes) (format : ReportFormat)
  | lsp (debounce : Option Nat)
  | serve (host : String) (port : Nat) (debounce : Option Nat)
  deriving DecidableEq, Repr

/-- The commands. -/
inductive Verb where
  | check
  | lsp
  | serve
  deriving DecidableEq, Repr

/-- What help can be asked about. -/
inductive HelpTopic where
  | program
  | verb (v : Verb)
  | help
  deriving DecidableEq, Repr

inductive UsageFault where
  /-- Help is asked for, with or without every detail. -/
  | helpWanted (topic : HelpTopic) (detailed : Bool)
  | versionWanted
  /-- No arguments at all. -/
  | nothingGiven
  | noFiles
  | unknownCommand
  | unknownArgument
  /-- An option without its value, or a value that is none of the allowed ones. -/
  | badValue
  | badNumber
  /-- An option is given twice. -/
  | repeated
  /-- A switch is given a value. -/
  | surplusValue
  | notText
  deriving DecidableEq, Repr

namespace Invocation

/-- The options that take a value. -/
inductive Setting where
  | format
  | host
  | port
  | debounce
  deriving DecidableEq, Repr

namespace Setting

def long : Setting → String
  | .format => "format"
  | .host => "host"
  | .port => "port"
  | .debounce => "debounce-ms"

def short? : Setting → Option Char
  | .format => some 'f'
  | .port => some 'p'
  | _ => none

end Setting

end Invocation

namespace Verb

def name : Verb → String
  | .check => "check"
  | .lsp => "lsp"
  | .serve => "serve"

def all : List Verb := [.check, .lsp, .serve]

def ofName? (name : String) : Option Verb := all.find? (·.name == name)

/-- The options of a command. -/
def settings : Verb → List Invocation.Setting
  | .check => [.format]
  | .lsp => [.debounce]
  | .serve => [.host, .port, .debounce]

def takesFiles (v : Verb) : Bool := v == .check

end Verb

namespace Invocation

/-! ### The shape of one argument -/

inductive Argument where
  /-- `--`: only files follow. -/
  | escape
  /-- A name behind two dashes, if it is text, and the value behind `=`. -/
  | long (name : Option String) (value : Option Bytes)
  /-- What stands behind one dash. -/
  | short (flags : Bytes)
  | plain
  deriving DecidableEq, Repr

def dash : UInt8 := 0x2D

def equals : UInt8 := 0x3D

def textOf? (bytes : Bytes) : Option String := (Text.utf8? bytes).map String.ofList

/-- The shape of an argument. A dash alone is no option. -/
def Argument.ofBytes (bytes : Bytes) : Argument :=
  match bytes with
  | [] => .plain
  | a :: rest =>
    if a = dash then
      match rest with
      | [] => .plain
      | b :: rest' =>
        if b = dash then
          match rest' with
          | [] => .escape
          | _ :: _ =>
            match Text.cut? equals rest' with
            | some (name, value) => .long (textOf? name) (some value)
            | none => .long (textOf? rest') none
        else .short rest
    else .plain

/-- The first character behind one dash, and what stands behind it. -/
def splitFlag? : Bytes → Option (Char × Bytes)
  | [] => none
  | b :: bs =>
    match Text.decodeStep b bs with
    | (some c, n) => some (c, bs.drop (n - 1))
    | (none, _) => none

/-! ### Values -/

/-- What is read but not checked yet. -/
inductive Pending where
  | nothing
  | setting (s : Setting) (value : Option Bytes)
  | files (paths : List Bytes)
  deriving DecidableEq, Repr

/-- What the arguments have given so far. -/
structure Collected where
  format : Option ReportFormat
  host : Option String
  port : Option Nat
  debounce : Option Nat
  files : List Bytes
  pending : Pending
  deriving DecidableEq, Repr

namespace Collected

def empty : Collected := ⟨none, none, none, none, [], .nothing⟩

def has (c : Collected) : Setting → Bool
  | .format => c.format.isSome
  | .host => c.host.isSome
  | .port => c.port.isSome
  | .debounce => c.debounce.isSome

end Collected

def formatNames : List (String × ReportFormat) :=
  [("text", .text), ("json", .json), ("yaml", .yaml)]

/-- A number with an optional sign, at most 65535. -/
def portNumber? (cs : List Char) : Option Nat :=
  match cs with
  | '-' :: digits => (Text.readNat? 10 digits).filter (· = 0)
  | _ => Text.readBelow? 65536 cs

/-- Stores the value of a setting. -/
def Collected.store (c : Collected) (s : Setting) (value : String) : Except UsageFault Collected :=
  match s with
  | .format =>
    match formatNames.lookup value with
    | some f => .ok { c with format := some f }
    | none => .error .badValue
  | .host => .ok { c with host := some value }
  | .port =>
    match portNumber? value.toList with
    | some n => .ok { c with port := some n }
    | none => .error .badNumber
  | .debounce =>
    match Text.readBelow? Text.wordBound value.toList with
    | some n => .ok { c with debounce := some n }
    | none => .error .badNumber

/-- Checks what is pending and stores it. -/
def Collected.resolve (c : Collected) : Except UsageFault Collected :=
  let done := { c with pending := .nothing }
  match c.pending with
  | .nothing => .ok c
  | .files paths =>
    if paths.any List.isEmpty then .error .badValue
    else .ok { done with files := c.files ++ paths }
  | .setting _ none => .error .badValue
  | .setting s (some value) =>
    if c.has s then .error .repeated
    else
      match textOf? value with
      | some text => done.store s text
      | none => .error (if s = .format then .badValue else .notText)

/-- Checks what is pending and begins a setting. -/
def Collected.begin (c : Collected) (s : Setting) (value : Option Bytes) :
    Except UsageFault Collected :=
  match c.resolve with
  | .error e => .error e
  | .ok c =>
    match value with
    | none => .ok { c with pending := .setting s none }
    | some _ => { c with pending := .setting s value }.resolve

/-- Adds a file; files in a row are checked together. -/
def Collected.addFile (c : Collected) (path : Bytes) : Except UsageFault Collected :=
  match c.pending with
  | .files paths => .ok { c with pending := .files (paths ++ [path]) }
  | _ =>
    match c.resolve with
    | .error e => .error e
    | .ok c => .ok { c with pending := .files [path] }

/-! ### The arguments of a command -/

/-- Reads an argument that is no option: the value that an option waits for, or a file. -/
def readPlain (verb : Verb) (escaped : Bool) (c : Collected) (arg : Bytes) :
    Except UsageFault Collected :=
  match escaped, c.pending with
  | false, .setting s none => .ok { c with pending := .setting s (some arg) }
  | _, _ => if verb.takesFiles then c.addFile arg else .error .unknownArgument

/-- Reads a name behind two dashes. -/
def readLong (verb : Verb) (c : Collected) (name : Option String) (value : Option Bytes) :
    Except UsageFault Collected :=
  match name with
  | none => .error .unknownArgument
  | some name =>
    match verb.settings.find? (·.long == name) with
    | some s => c.begin s value
    | none =>
      if name = "help" then
        match value with
        | some _ => .error .surplusValue
        | none =>
          match c.resolve with
          | .error e => .error e
          | .ok _ => .error (.helpWanted (.verb verb) true)
      else .error .unknownArgument

/-- The value behind a letter; an equals sign before it is dropped. -/
def attached? (rest : Bytes) : Option Bytes :=
  match rest with
  | [] => none
  | b :: bs => if b = equals then some bs else some (b :: bs)

/-- Reads what stands behind one dash. -/
def readShort (verb : Verb) (c : Collected) (flags : Bytes) : Except UsageFault Collected :=
  match splitFlag? flags with
  | none => .error .unknownArgument
  | some (letter, rest) =>
    match verb.settings.find? (·.short? == some letter) with
    | some s => c.begin s (attached? rest)
    | none =>
      if letter = 'h' then
        match c.resolve with
        | .error e => .error e
        | .ok _ => .error (.helpWanted (.verb verb) false)
      else .error .unknownArgument

/-- Reads one argument; behind `--` none is an option. -/
def readArgument (verb : Verb) (escaped : Bool) (c : Collected) (arg : Bytes) :
    Except UsageFault Collected :=
  match escaped, Argument.ofBytes arg with
  | false, .escape => .ok c
  | false, .long name value => readLong verb c name value
  | false, .short flags => readShort verb c flags
  | _, _ => readPlain verb escaped c arg

/-- Reads the arguments behind the name of a command. -/
def readArguments (verb : Verb) (escaped : Bool) (c : Collected) :
    List Bytes → Except UsageFault Collected
  | [] => c.resolve
  | arg :: args =>
    match readArgument verb escaped c arg with
    | .error e => .error e
    | .ok c' => readArguments verb (escaped || Argument.ofBytes arg == .escape) c' args

def defaultHost : String := "127.0.0.1"

def defaultPort : Nat := 3000

/-- A command with what its arguments have given. -/
def build (verb : Verb) (c : Collected) : Except UsageFault Invocation :=
  match verb with
  | .check =>
    if c.files.isEmpty then .error .noFiles else .ok (.check c.files (c.format.getD .text))
  | .lsp => .ok (.lsp c.debounce)
  | .serve => .ok (.serve (c.host.getD defaultHost) (c.port.getD defaultPort) c.debounce)

/-- The name under which help is asked for. -/
def helpName : String := "help"

/-- What a word names that help can be asked about. -/
def topic? (word : String) : Option HelpTopic :=
  if word = helpName then some .help else (Verb.ofName? word).map .verb

/-- What asking for help on topics gives: no command has commands of its own. -/
def helpOn (topics : List Bytes) : UsageFault :=
  match topics with
  | [] => .helpWanted .program true
  | [word] =>
    match (textOf? word).bind topic? with
    | some topic => .helpWanted topic true
    | none => .unknownCommand
  | _ => .unknownCommand

/-- The command that arguments ask for. -/
def parse (args : List Bytes) : Except UsageFault Invocation :=
  match args with
  | [] => .error .nothingGiven
  | arg :: rest =>
    match Argument.ofBytes arg with
    | .escape =>
      match rest with
      | [] => .error .nothingGiven
      | word :: _ =>
        match (textOf? word).bind topic? with
        | some _ => .error .unknownArgument
        | none => .error .unknownCommand
    | .long name value =>
      match name, value with
      | some "help", none => .error (.helpWanted .program true)
      | some "version", none => .error .versionWanted
      | some "help", some _ => .error .surplusValue
      | some "version", some _ => .error .surplusValue
      | _, _ => .error .unknownArgument
    | .short flags =>
      match splitFlag? flags with
      | some ('h', _) => .error (.helpWanted .program false)
      | some ('V', _) => .error .versionWanted
      | _ => .error .unknownArgument
    | .plain =>
      match textOf? arg with
      | none => .error .unknownCommand
      | some name =>
        if name = helpName then .error (helpOn rest)
        else
          match Verb.ofName? name with
          | none => .error .unknownCommand
          | some verb =>
            match readArguments verb false .empty rest with
            | .error e => .error e
            | .ok c => build verb c

end Invocation

end AppConfig
