import AppConfig.Finding
import AppConfig.Locate
import AppConfig.Schema
import AppConfig.Yaml.Read

/-!
# AppConfig.Validate

Checking a document against the schema.

* `validate` — the findings for a mapping. Each violation is reported by itself; only `settings`
  that are no object keep the checks below them from being made.
* `validateText` — the findings for a text. A blank text has none; a text that cannot be read, or
  whose root is no mapping, has exactly one.
-/

namespace AppConfig

open Yaml (Value)

abbrev Mapping := List (Value × Value)

/-- A finding for each required key that is absent. -/
def missingFields (document : Mapping) : List Finding :=
  (Schema.required.filter fun f => (Value.get? document f.key).isNone).map fun f =>
    .error .missingRequiredField 0 ("required field \"" ++ f.key ++ "\" is missing")

/-- A finding for a key whose value does not have the wanted type. -/
def mistyped (entries : Mapping) (text : List Char) (key : String) (type : FieldType)
    (severity : Severity) (message : String) : List Finding :=
  match Value.get? entries key with
  | some v =>
    if type.accepts v then []
    else [⟨severity, .typeMismatch, locateField text key.toList, message⟩]
  | none => []

/-- A number strictly below zero. -/
def isNegative (v : Value) : Bool :=
  match v.untagged with
  | .int i => i < 0
  | .float x => x.isNegative
  | _ => false

/-- The checks below `settings`. -/
def validateSettings (settings : Mapping) (text : List Char) : List Finding :=
  mistyped settings text "timeout" .number .warning "\"settings.timeout\" must be a number" ++
  mistyped settings text "retries" .number .warning "\"settings.retries\" must be a number" ++
  match Value.get? settings "retries" with
  | some v =>
    if isNegative v then
      [.warning .outOfRange (locateField text "retries".toList)
        "\"settings.retries\" must be ≥ 0"]
    else []
  | none => []

/-- The findings for a mapping. Lines are looked up in `text`. -/
def validate (document : Mapping) (text : List Char) : List Finding :=
  missingFields document ++
  mistyped document text "name" .string .error "\"name\" must be a string" ++
  mistyped document text "version" .string .error "\"version\" must be a string" ++
  mistyped document text "enabled" .boolean .warning
    "\"enabled\" must be a boolean (true or false)" ++
  match Value.get? document "settings" with
  | some v =>
    match v.entries? with
    | some settings => validateSettings settings text
    | none =>
      [.error .typeMismatch (locateField text "settings".toList) "\"settings\" must be an object"]
  | none => []

/-- A text that cannot be read. -/
structure ReadFailure where
  message : String
  /-- Line and column, counted from one, if the failure has a place. -/
  location : Option (Nat × Nat)
  deriving DecidableEq, Repr

namespace ReadFailure

def ofYaml (f : Yaml.Failure) : ReadFailure := ⟨f.message, f.location?⟩

def line? (f : ReadFailure) : Option Nat := f.location.map (·.1)

/-- The message with the place behind it. -/
def display (f : ReadFailure) : String :=
  match f.location with
  | some (line, column) =>
    f.message ++ " (line " ++ toString line ++ ", column " ++ toString column ++ ")"
  | none => f.message

end ReadFailure

/-- The value of a text, without a leading byte-order mark. -/
def parse (text : List Char) : Except ReadFailure Value :=
  (Yaml.read (Text.dropBom text)).mapError .ofYaml

/-- The finding for a text that cannot be read. -/
def syntaxFinding (f : ReadFailure) : Finding :=
  .error .syntaxError (f.line?.getD 1 - 1) ("syntax error: " ++ f.message)

/-- The findings for a text. -/
def validateText (text : List Char) : List Finding :=
  let text := Text.dropBom text
  if Text.isBlank text then []
  else
    match parse text with
    | .error f => [syntaxFinding f]
    | .ok v =>
      match v.entries? with
      | some document => validate document text
      | none => [.error .rootNotObject 0 "root element must be an object"]

end AppConfig
