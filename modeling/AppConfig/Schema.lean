import AppConfig.Yaml.Value

/-!
# AppConfig.Schema

The configuration schema is a table of fields. Everything the editor shows about a field, and
everything the validator says about it, is read off its entry.

* `Field` — one entry: dotted path, bare key, declared type, requirement, documentation.
* `Schema.fields` — the table, in declaration order.
* `FieldType.accepts` — whether a value has a declared type; tags are looked through.
-/

namespace AppConfig

inductive FieldType where
  | string
  | boolean
  | number
  | object
  deriving DecidableEq, Repr

namespace FieldType

def name : FieldType → String
  | .string => "string"
  | .boolean => "boolean"
  | .number => "number"
  | .object => "object"

/-- A value has the declared type when its content, below any tags, has it. -/
def accepts (t : FieldType) (v : Yaml.Value) : Bool :=
  match t, v.untagged with
  | .string, .str _ => true
  | .boolean, .bool _ => true
  | .number, .int _ => true
  | .number, .float _ => true
  | .object, .map _ => true
  | _, _ => false

end FieldType

structure Field where
  /-- Dotted path from the document root. -/
  path : String
  /-- The key as it is written in a document. -/
  key : String
  type : FieldType
  required : Bool
  description : String
  /-- What completion puts into the document. -/
  insertText : String
  deriving DecidableEq, Repr

namespace Field

/-- The text before the last dot of a path. -/
def parentOf : List Char → Option (List Char)
  | [] => none
  | c :: cs =>
    match parentOf cs with
    | some p => some (c :: p)
    | none => if c = '.' then some [] else none

/-- The path of the enclosing object; `none` at the root. -/
def parent (f : Field) : Option String := (parentOf f.path.toList).map String.ofList

def requirement (f : Field) : String := if f.required then "required" else "optional"

def detail (f : Field) : String := f.type.name ++ " (" ++ f.requirement ++ ")"

end Field

namespace Schema

/-- All known fields, in declaration order. -/
def fields : List Field := [
  { path := "name", key := "name", type := .string, required := true,
    description := "The name of the application.",
    insertText := "name: " },
  { path := "version", key := "version", type := .string, required := true,
    description := "The version of the application, e.g. \"1.0.0\".",
    insertText := "version: " },
  { path := "enabled", key := "enabled", type := .boolean, required := false,
    description := "Whether the application is enabled (true or false).",
    insertText := "enabled: " },
  { path := "settings", key := "settings", type := .object, required := false,
    description := "Additional runtime settings.",
    insertText := "settings:\n  " },
  { path := "settings.timeout", key := "timeout", type := .number, required := false,
    description := "Timeout in seconds.",
    insertText := "timeout: " },
  { path := "settings.retries", key := "retries", type := .number, required := false,
    description := "Number of retries on failure. Must be 0 or greater.",
    insertText := "retries: " }]

def required : List Field := fields.filter (·.required)

/-- Fields at the document root. -/
def topLevel : List Field := fields.filter (·.parent == none)

/-- Fields directly under `parent`. -/
def nested (parent : String) : List Field := fields.filter (·.parent == some parent)

/-- The field with a bare key. -/
def lookup (key : String) : Option Field := fields.find? (·.key == key)

/-- The field with a dotted path. -/
def lookupPath (path : String) : Option Field := fields.find? (·.path == path)

end Schema

end AppConfig
