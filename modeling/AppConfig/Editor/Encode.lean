import AppConfig.Editor.Completion
import AppConfig.Editor.Diagnostic
import AppConfig.Editor.Hover
import AppConfig.Json.Basic

/-!
# AppConfig.Editor.Encode

The editor's data as JSON.
-/

namespace AppConfig.Editor

def Position.toJson (p : Position) : Json :=
  .obj [("line", .nat p.line), ("character", .nat p.character)]

def Range.toJson (r : Range) : Json :=
  .obj [("start", r.start.toJson), ("end", r.stop.toJson)]

/-- Markdown with its kind. -/
def markdown (text : String) : Json :=
  .obj [("kind", .str "markdown"), ("value", .str text)]

def Hover.toJson (h : Hover) : Json :=
  .obj [("contents", markdown h.contents), ("range", h.range.toJson)]

/-- The kind of all items: a property. -/
def CompletionItem.kindNumber : Nat := 10

def CompletionItem.toJson (i : CompletionItem) : Json :=
  .obj [("label", .str i.label), ("kind", .nat kindNumber), ("detail", .str i.detail),
    ("documentation", markdown i.documentation), ("insertText", .str i.insertText)]

def Diagnostic.toJson (d : Diagnostic) : Json :=
  .obj [("range", d.range.toJson), ("severity", .nat (severityNumber d.severity)),
    ("code", .str d.code), ("source", .str source), ("message", .str d.message)]

end AppConfig.Editor

namespace AppConfig

def Finding.toJson (f : Finding) : Json :=
  .obj [("severity", .str f.severity.name), ("kind", .str f.kind.code), ("line", .nat f.line),
    ("message", .str f.message)]

end AppConfig
