import AppConfig.Text.Split
import AppConfig.Text.White

/-!
# AppConfig.Settings.Headers

Header lists in one variable: pairs `key=value` divided by commas.

* `Headers` — a table from keys to values, in the order of the keys.
* `parseHeaders` — the table that a text gives. A part without `=`, or with a blank key, is left
  out; a later value for a key replaces an earlier one.
-/

namespace AppConfig

/-- Keys with their values. Keys increase, so each occurs once. -/
abbrev Headers := List (String × String)

namespace Headers

def get? (h : Headers) (key : String) : Option String := h.lookup key

/-- Gives a key a value, in place of the one it had. -/
def put : Headers → String → String → Headers
  | [], key, value => [(key, value)]
  | (k, v) :: rest, key, value =>
    if key < k then (key, value) :: (k, v) :: rest
    else if key = k then (key, value) :: rest
    else (k, v) :: put rest key value

/-- A table changed by a list of pairs, one after the other. -/
def putAll (h : Headers) (pairs : List (String × String)) : Headers :=
  pairs.foldl (fun h p => h.put p.1 p.2) h

end Headers

/-- The pair that a part of a header list gives. -/
def headerPair? (part : List Char) : Option (String × String) :=
  match Text.cut? '=' part with
  | none => none
  | some (key, value) =>
    match Text.trim key with
    | [] => none
    | k => some (String.ofList k, String.ofList (Text.trim value))

/-- The pairs of a header list, in order. -/
def headerPairs (raw : List Char) : List (String × String) :=
  (Text.split ',' raw).filterMap headerPair?

/-- The table of a header list. -/
def parseHeaders (raw : List Char) : Headers := Headers.putAll [] (headerPairs raw)

end AppConfig
