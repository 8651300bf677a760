import AppConfig.Command.Invocation
import AppConfig.Program

/-!
# AppConfig.Command.Help

The pages that explain the command line.

* `Entry`, `Page` — what can be given, and the lists of it under their titles.
* `page` — the page of a topic.
* `Page.render` — a page as text. On a brief page an entry takes one line, its explanation in a
  column of its own; a detailed page puts the explanation below and explains every choice. A page
  without choices has no details, so it looks the same both ways.
-/

namespace AppConfig.Command

/-- One thing that can be given, with the value that stands in for it. -/
structure Entry where
  label : String
  text : String
  fallback : Option String := none
  /-- The values that can be chosen from, each with its explanation. -/
  choices : List (String × String) := []
  deriving DecidableEq, Repr

structure Page where
  about : String
  usage : String
  sections : List (String × List Entry)
  deriving DecidableEq, Repr

namespace Page

/-- Whether there is more to tell than fits on a brief page. -/
def hasDetails (p : Page) : Bool := p.sections.any (·.2.any (!·.choices.isEmpty))

end Page

/-! ### Layout -/

def blanks (n : Nat) : String := String.ofList (List.replicate n ' ')

namespace Entry

/-- What is said of the value that stands in. -/
def fallbackNote (e : Entry) : List String :=
  match e.fallback with
  | some v => ["[default: " ++ v ++ "]"]
  | none => []

/-- What is said of the values to choose from. -/
def choiceNote (e : Entry) : List String :=
  if e.choices.isEmpty then []
  else ["[possible values: " ++ ", ".intercalate (e.choices.map (·.1)) ++ "]"]

/-- An entry on one line, its explanation behind a column of the given width. -/
def brief (width : Nat) (e : Entry) : String :=
  "  " ++ e.label ++ blanks (width - e.label.length) ++ "  " ++
    " ".intercalate (e.text :: (e.fallbackNote ++ e.choiceNote)) ++ "\n"

/-- How far the explanations of a detailed page stand in. -/
def indent : String := blanks 10

/-- One choice below its entry. -/
def choiceLine (choice : String × String) : String :=
  indent ++ "- " ++ choice.1 ++ ": " ++ choice.2 ++ "\n"

/-- The choices below their entry. -/
def choiceLines (e : Entry) : String :=
  if e.choices.isEmpty then ""
  else "\n" ++ indent ++ "Possible values:\n" ++ String.join (e.choices.map choiceLine)

/-- An entry with everything about it on lines below. -/
def detailed (e : Entry) : String :=
  "  " ++ e.label ++ "\n" ++ indent ++ e.text ++ "\n" ++ e.choiceLines ++
    String.join (e.fallbackNote.map fun note => indent ++ "\n" ++ indent ++ note ++ "\n")

end Entry

/-- The width of the widest label. -/
def widest (entries : List Entry) : Nat := entries.foldl (fun n e => max n e.label.length) 0

/-- A list of entries under its title. -/
def renderSection (detailed : Bool) (title : String) (entries : List Entry) : String :=
  "\n" ++ title ++ ":\n" ++
    if detailed then "\n".intercalate (entries.map Entry.detailed)
    else String.join (entries.map (Entry.brief (widest entries)))

/-- A page as text; details are given if they are asked for and there are some. -/
def Page.render (detailed : Bool) (p : Page) : String :=
  p.about ++ "\n\nUsage: " ++ p.usage ++ "\n" ++
    String.join (p.sections.map fun (title, entries) =>
      renderSection (detailed && p.hasDetails) title entries)

/-! ### The pages -/

def aboutProgram : String := "Language server and validator for application config files"

def aboutHelp : String := "Print this message or the help of the given subcommand(s)"

def aboutVerb : Verb → String
  | .check => "Validate config files and print findings"
  | .lsp => "Run the language server over stdin/stdout"
  | .serve => "Serve the language server over WebSocket at /lsp"

def settingEntry : Invocation.Setting → Entry
  | .format => ⟨"-f, --format <FORMAT>", "Output format", some "text",
      [("text", "Human-readable lines"), ("json", "JSON report"), ("yaml", "YAML report")]⟩
  | .host => ⟨"    --host <HOST>", "Address to bind", some Invocation.defaultHost, []⟩
  | .port => ⟨"-p, --port <PORT>", "Port number", some (toString Invocation.defaultPort), []⟩
  | .debounce => ⟨"    --debounce-ms <DEBOUNCE_MS>",
      "Delay between the last edit and validation, in milliseconds", none, []⟩

/-- The switch for help. It tells how to see more, or less, where that differs. -/
def helpEntry (detailed hasDetails : Bool) : Entry :=
  let more :=
    if hasDetails then
      if detailed then " (see a summary with '-h')" else " (see more with '--help')"
    else ""
  ⟨"-h, --help", "Print help" ++ more, none, []⟩

def versionEntry : Entry := ⟨"-V, --version", "Print version", none, []⟩

def filesEntry : Entry := ⟨"<FILES>...", "Files to validate", none, []⟩

/-- The page of the program lists its commands. -/
def programPage : Page where
  about := aboutProgram
  usage := programName ++ " <COMMAND>"
  sections :=
    [("Commands", Verb.all.map (fun v => ⟨v.name, aboutVerb v, none, []⟩) ++
        [⟨Invocation.helpName, aboutHelp, none, []⟩]),
      ("Options", [helpEntry false false, versionEntry])]

/-- The page of a command lists its files and options. -/
def verbPage (detailed : Bool) (v : Verb) : Page :=
  let settings := v.settings.map settingEntry
  let files := if v.takesFiles then [("Arguments", [filesEntry])] else []
  { about := aboutVerb v
    usage := programName ++ " " ++ v.name ++ " [OPTIONS]" ++
      if v.takesFiles then " " ++ filesEntry.label else ""
    sections := files ++
      [("Options", settings ++ [helpEntry detailed (settings.any (!·.choices.isEmpty))])] }

def helpPage : Page where
  about := aboutHelp
  usage := programName ++ " " ++ Invocation.helpName ++ " [COMMAND]..."
  sections := [("Arguments", [⟨"[COMMAND]...", "Print help for the subcommand(s)", none, []⟩])]

/-- The page of a topic. -/
def page (detailed : Bool) : HelpTopic → Page
  | .program => programPage
  | .verb v => verbPage detailed v
  | .help => helpPage

/-- The help on a topic. -/
def helpText (topic : HelpTopic) (detailed : Bool) : String := (page detailed topic).render detailed

/-- Where to look when the arguments cannot be used. -/
def usageHint : String :=
  "Usage: " ++ programPage.usage ++ "\n\nFor more information, try '--help'.\n"

end AppConfig.Command
