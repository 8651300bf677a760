import AppConfig.Text.Digits
import AppConfig.Text.Split
import AppConfig.Text.White
import AppConfig.Text.Word

/-!
# AppConfig.Settings.LogFilter

Which log records are written. A filter is a list of directives divided by commas; each sets the
most verbose level for the targets that begin with its own.

* `Directive` — `level`, `target`, `target=level`, with a span and fields in brackets on request.
* `LogFilter.parse?` — the filter of a text.
* `LogFilter.admits` — whether a record passes: the directive with the longest target decides.
-/

namespace AppConfig

/-- Levels from the least verbose to the most verbose. -/
inductive LogLevel where
  | error
  | warn
  | info
  | debug
  | trace
  deriving DecidableEq, Repr

namespace LogLevel

def rank : LogLevel → Nat
  | .error => 1
  | .warn => 2
  | .info => 3
  | .debug => 4
  | .trace => 5

def name : LogLevel → String
  | .error => "ERROR"
  | .warn => "WARN"
  | .info => "INFO"
  | .debug => "DEBUG"
  | .trace => "TRACE"

end LogLevel

/-- One rule of a filter. -/
structure Directive where
  target : Option (List Char)
  /-- The name of the span that the rule is for. -/
  span : Option (List Char)
  /-- The fields that it asks for, each with whether it asks for a value. -/
  fields : List (List Char × Bool)
  /-- The rank of the most verbose level; zero lets nothing pass. -/
  limit : Nat
  deriving DecidableEq, Repr

namespace Directive

/-- The names of the limits, in any case. -/
def limitNames : List (String × Nat) :=
  [("off", 0), ("error", 1), ("warn", 2), ("info", 3), ("debug", 4), ("trace", 5)]

/-- A limit by its number or name. -/
def limit? (cs : List Char) : Option Nat :=
  match Text.readBelow? 6 cs with
  | some n => some n
  | none => limitNames.lookup (String.ofList (cs.map Char.toLower))

/-- What a directive without a limit lets pass. -/
def noLimit : Nat := 5

/-- The limit behind an equals sign. -/
def limitOr? (cs : List Char) : Option Nat :=
  if cs.isEmpty then some noLimit else limit? cs

/-- The text behind a closing bracket. -/
def tail? (cs : List Char) : Option Nat :=
  match cs with
  | [] => some noLimit
  | '=' :: level => limitOr? level
  | _ => none

/-- One field: a name, and a value behind an equals sign. -/
def field? (cs : List Char) : Option (List Char × Bool) :=
  match cs with
  | [] => none
  | _ =>
    match Text.cut? '=' cs with
    | some (name, _) => some (name, true)
    | none => some (cs, false)

/-- The part `cs` behind an opening bracket. Names are cut from the text as it stands, of which
`given` is the part from the same place on. -/
def bracketed? (target : Option (List Char)) (cs given : List Char) : Option Directive :=
  let width := (cs.takeWhile fun c => c != ']' && c != '\x7b').length
  let name := given.take width
  match cs.drop width with
  | ']' :: rest => (tail? rest).map fun limit => ⟨target, some name, [], limit⟩
  | '\x7b' :: rest =>
    match Text.cut? '\x7d' rest with
    | some (inner, ']' :: rest) =>
      match field? ((given.drop (width + 1)).take inner.length), tail? rest with
      | some field, some limit =>
        some ⟨target, if name.isEmpty then none else some name, [field], limit⟩
      | _, _ => none
    | _ => none
  | _ => none

/-- The characters that a directive may begin with, besides letters and numbers. -/
def isOpening (c : Char) : Bool := c == '-' || c == ':' || c == '_' || Text.isWordChar c

/-- The directive of a text. Where its parts end is told from the text without white space around
it; the parts are cut at the same places from the text as it stands. -/
def parse? (cs : List Char) : Option Directive :=
  match Text.trim cs with
  | [] => none
  | '[' :: rest => bracketed? none rest (cs.drop 1)
  | c :: rest =>
    if isOpening c then
      let width := ((c :: rest).takeWhile fun c => c != '=' && c != '[').length
      match (c :: rest).drop width with
      | '=' :: _ =>
        (limitOr? (cs.drop (width + 1))).map fun limit => ⟨some (cs.take width), none, [], limit⟩
      | '[' :: rest => bracketed? (some (cs.take width)) rest (cs.drop (width + 1))
      | _ =>
        match limit? cs with
        | some limit => some ⟨none, none, [], limit⟩
        | none => some ⟨some cs, none, [], noLimit⟩
    else none

/-- A rule for spans says nothing about records outside them. -/
def forSpans (d : Directive) : Bool := d.span.isSome || d.fields.any (·.2)

/-- Whether a directive is about records of a target with some fields. -/
def covers (d : Directive) (target : List Char) (fields : List (List Char)) : Bool :=
  !d.forSpans && (d.target.getD []).isPrefixOf target && d.fields.all (fields.contains ·.1)

/-- How much a directive says: a longer target first, then more fields. -/
def weight (d : Directive) : Nat × Nat :=
  (match d.target with
    | some t => t.length + 1
    | none => 0, d.fields.length)

/-- The names of the fields. -/
def fieldNames (d : Directive) : List (List Char) := d.fields.map (·.1)

/-- Whether a text stands no later than another in the alphabet. -/
def notAfter : List Char → List Char → Bool
  | [], _ => true
  | _ :: _, [] => false
  | a :: as, b :: bs => if a = b then notAfter as bs else a.toNat < b.toNat

/-- The same for lists of texts, of which the first two that differ decide. -/
def noneAfter : List (List Char) → List (List Char) → Bool
  | [], _ => true
  | _ :: _, [] => false
  | a :: as, b :: bs => if a = b then noneAfter as bs else notAfter a b

/-- Whether `d` decides before `e` does: the one that says more, then the one whose fields come
later in the alphabet, then the later one. -/
def decidesOver (d e : Directive) : Bool :=
  if d.weight = e.weight then noneAfter e.fieldNames d.fieldNames
  else e.weight.1 < d.weight.1 || (e.weight.1 == d.weight.1 && e.weight.2 < d.weight.2)

end Directive

abbrev LogFilter := List Directive

namespace LogFilter

/-- Only errors. -/
def errorsOnly : LogFilter := [⟨none, none, [], 1⟩]

/-- The filter of a text; `none` if a directive is faulty. -/
def parse? (text : List Char) : Option LogFilter :=
  match ((Text.split ',' text).filter fun p => !p.isEmpty).mapM Directive.parse? with
  | none => none
  | some [] => some errorsOnly
  | some ds => some ds

/-- The directive that decides on a record. -/
def decisive? (filter : LogFilter) (target : List Char) (fields : List (List Char)) :
    Option Directive :=
  filter.foldl (fun best d =>
    if d.covers target fields then
      match best with
      | some b => if d.decidesOver b then some d else some b
      | none => some d
    else best) none

/-- Whether a record passes. -/
def admits (filter : LogFilter) (level : LogLevel) (target : String) (fields : List String) :
    Bool :=
  match filter.decisive? target.toList (fields.map String.toList) with
  | some d => level.rank ≤ d.limit
  | none => false

/-- The filter without a usable setting. -/
def fallback : String := "config_lsp=info,tower_http=info"

/-- The filter of a setting, or the fallback. -/
def ofSetting (setting : Option String) : LogFilter :=
  match setting.bind fun s => parse? s.toList with
  | some filter => filter
  | none => (parse? fallback.toList).getD errorsOnly

end LogFilter

end AppConfig
