import AppConfig.Json.Print
import AppConfig.Net.Url
import AppConfig.Text.Quoted

/-!
# AppConfig.Rpc.Shape

What parameters have to look like, and what is wrong with those that do not.

* `Shape` — the kinds of values. A `record` is an object with certain members, or a list of their
  values in order; a `merged` record is an object only, whose members belong to the record itself
  or to one of its groups.
* `Shape.decode` — the value brought into its plain form, with records as objects, or the first
  complaint. Members are looked at in the order of their keys, and only then those that are
  missing, in the order of declaration. The members of groups are set aside first and looked at
  when the record itself is complete.
-/

namespace AppConfig.Rpc

inductive Shape where
  | any
  | boolean
  | number
  /-- A whole number from `low` to `high`, and its name. -/
  | integer (name : String) (low high : Int)
  | text
  | url
  /-- One of certain words. -/
  | word (choices : List String)
  /-- The first of several shapes that fits. -/
  | oneOf (name : String) (choices : List Shape)
  | optional (s : Shape)
  | list (s : Shape)
  /-- Members are a key, a shape, and whether the member has to be there. -/
  | record (name : String) (members : List (String × Shape × Bool))
  | merged (name : String) (members : List (String × Shape × Bool))
      (groups : List (List (String × Shape × Bool)))

namespace Shape

def natural32 : Shape := .integer "u32" 0 (twoTo 32 - 1)

def integer32 : Shape := .integer "i32" (-(twoTo 31)) (twoTo 31 - 1)

/-- A value as complaints show it. -/
def describe : Json → String
  | .null => "null"
  | .bool b => "boolean `" ++ (if b then "true" else "false") ++ "`"
  | .int i => "integer `" ++ toString i ++ "`"
  | .float x => "floating point `" ++ Decimal.write Json.numberStyle x ++ "`"
  | .str s => "string " ++ Text.quoted s
  | .arr _ => "sequence"
  | .obj _ => "map"

def wrongType (v : Json) (expected : String) : String :=
  "invalid type: " ++ describe v ++ ", expected " ++ expected

def wrongValue (v : Json) (expected : String) : String :=
  "invalid value: " ++ describe v ++ ", expected " ++ expected

/-- What decoding a member gave: `none` if it is absent. -/
structure Slot where
  key : String
  required : Bool
  outcome : Option (Except String Json)

/-- The complaint about the first member, in the order of the object, that is wrong. -/
def firstWrong? (members : List (String × Json)) (slots : List Slot) : Option String :=
  members.findSome? fun m =>
    match slots.find? (·.key == m.1) with
    | some ⟨_, _, some (.error e)⟩ => some e
    | _ => none

/-- The complaint about the first member that is missing. -/
def firstMissing? (slots : List Slot) : Option String :=
  (slots.find? fun s => s.required && s.outcome.isNone).map fun s =>
    "missing field `" ++ s.key ++ "`"

/-- The members that are there. -/
def present (slots : List Slot) : List (String × Json) :=
  slots.filterMap fun s =>
    match s.outcome with
    | some (.ok v) => some (s.key, v)
    | _ => none

/-- The members of a record, or the first complaint. -/
def collect (members : List (String × Json)) (slots : List Slot) :
    Except String (List (String × Json)) :=
  match firstWrong? members slots with
  | some e => .error e
  | none =>
    match firstMissing? slots with
    | some e => .error e
    | none => .ok (present slots)

/-- The complaint about a list of the wrong length. -/
def wrongLength (n : Nat) (expected : String) : String :=
  "invalid length " ++ toString n ++ ", expected " ++ expected

/-- The members of a record that is given as a list. -/
def collectList (name : String) (count : Nat) : List Slot → Except String (List (String × Json))
  | [] => .ok []
  | s :: rest =>
    match s.outcome with
    | some (.error e) => .error e
    | some (.ok v) =>
      match collectList name count rest with
      | .error e => .error e
      | .ok ms => .ok ((s.key, v) :: ms)
    | none => .error (wrongLength (count - (rest.length + 1))
        ("struct " ++ name ++ " with " ++ toString count ++
          (if count = 1 then " element" else " elements")))

/-- The members of all groups together, or the first complaint. -/
def collectGroups (members : List (String × Json)) :
    List (List Slot) → Except String (List (String × Json))
  | [] => .ok []
  | g :: gs =>
    match collect members g with
    | .error e => .error e
    | .ok ms =>
      match collectGroups members gs with
      | .error e => .error e
      | .ok rest => .ok (ms ++ rest)

/-- Items decoded one after the other. -/
def decodeAll (f : Json → Except String Json) : List Json → Except String (List Json)
  | [] => .ok []
  | v :: vs =>
    match f v with
    | .error e => .error e
    | .ok w =>
      match decodeAll f vs with
      | .error e => .error e
      | .ok ws => .ok (w :: ws)

/-- The words of a choice as complaints show them. -/
def showChoices : List String → String
  | [] => "there are no variants"
  | [a] => "`" ++ a ++ "`"
  | [a, b] => "`" ++ a ++ "` or `" ++ b ++ "`"
  | choices => "one of " ++ String.intercalate ", " (choices.map fun c => "`" ++ c ++ "`")

/-- The complaint about a word that is no choice. -/
def unknownWord (given : String) (choices : List String) : String :=
  "unknown variant `" ++ given ++ "`, expected " ++ showChoices choices

/-- A word given as an object: it is the key, and there is nothing under it. -/
def decodeWordObject (choices : List String) : List (String × Json) → Except String Json
  | [(key, content)] =>
    if !choices.contains key then .error (unknownWord key choices)
    else
      match content with
      | .null => .ok (.str key)
      | content => .error (wrongType content "unit")
  | members => .error (wrongValue (.obj members) "map with a single key")

/-- The complaint about a list with more items than a record has members. -/
def surplus (aside : Bool) (given count : Nat) : String :=
  wrongLength given
    (if !aside then "fewer elements in array"
    else if count = 1 then "1 element in sequence"
    else toString count ++ " elements in sequence")

mutual

/-- A value in its plain form, or what is wrong with it; `aside` if it was set aside before. -/
def decodeFrom (aside : Bool) : Shape → Json → Except String Json
  | .any, v => .ok v
  | .boolean, v =>
    match v with
    | .bool b => .ok (.bool b)
    | v => .error (wrongType v "a boolean")
  | .number, v =>
    match v with
    | .int i => .ok (.int i)
    | .float x => .ok (.float x)
    | v => .error (wrongType v "f32")
  | .integer name low high, v =>
    match v with
    | .int i => if low ≤ i ∧ i ≤ high then .ok (.int i) else .error (wrongValue v name)
    | v => .error (wrongType v name)
  | .text, v =>
    match v with
    | .str s => .ok (.str s)
    | v => .error (wrongType v "a string")
  | .url, v =>
    match v with
    | .str s =>
      match Net.Url.parse s.toList with
      | .ok u => .ok (.str u)
      | .error e => .error (e.message ++ ": " ++ Text.quoted s)
    | v => .error (wrongType v "a string representing an URL")
  | .word choices, v =>
    match v with
    | .str s => if choices.contains s then .ok (.str s) else .error (unknownWord s choices)
    | .obj members => decodeWordObject choices members
    | v => .error (wrongType v "string or map")
  | .oneOf name choices, v =>
    match firstFit choices v with
    | some w => .ok w
    | none => .error ("data did not match any variant of untagged enum " ++ name)
  | .optional s, v =>
    match v with
    | .null => .ok .null
    | v => decodeFrom aside s v
  | .list s, v =>
    match v with
    | .arr items =>
      match decodeAll (decodeFrom aside s) items with
      | .ok ws => .ok (.arr ws)
      | .error e => .error e
    | v => .error (wrongType v "a sequence")
  | .record name members, v =>
    match v with
    | .obj given =>
      match collect given (slotsOf aside members given) with
      | .ok ms => .ok (.obj ms)
      | .error e => .error e
    | .arr items =>
      match collectList name members.length (listSlots aside members items) with
      | .error e => .error e
      | .ok ms =>
        if members.length < items.length then
          .error (surplus aside items.length members.length)
        else .ok (.obj ms)
    | v => .error (wrongType v ("struct " ++ name))
  | .merged name members groups, v =>
    match v with
    | .obj given =>
      match collect given (slotsOf aside members given) with
      | .error e => .error e
      | .ok ms =>
        match collectGroups given (groupSlots groups given) with
        | .error e => .error e
        | .ok rest => .ok (.obj (ms ++ rest))
    | v => .error (wrongType v ("struct " ++ name))

/-- The value in the first shape that fits it. -/
def firstFit : List Shape → Json → Option Json
  | [], _ => none
  | s :: rest, v =>
    match decodeFrom true s v with
    | .ok w => some w
    | .error _ => firstFit rest v

/-- The members of a record as an object gives them. -/
def slotsOf (aside : Bool) : List (String × Shape × Bool) → List (String × Json) → List Slot
  | [], _ => []
  | (key, shape, required) :: rest, given =>
    ⟨key, required, (Json.member? given key).map (decodeFrom aside shape)⟩ ::
      slotsOf aside rest given

/-- The members of each group as an object gives them. -/
def groupSlots : List (List (String × Shape × Bool)) → List (String × Json) → List (List Slot)
  | [], _ => []
  | g :: gs, given => slotsOf true g given :: groupSlots gs given

/-- The members of a record as a list gives them. -/
def listSlots (aside : Bool) : List (String × Shape × Bool) → List Json → List Slot
  | [], _ => []
  | (key, shape, required) :: rest, items =>
    ⟨key, required, items.head?.map (decodeFrom aside shape)⟩ :: listSlots aside rest items.tail

end

/-- A value in its plain form, or what is wrong with it. -/
def decode : Shape → Json → Except String Json := decodeFrom false

end Shape

abbrev Member := String × Shape × Bool

/-- A member that has to be there. -/
def need (key : String) (shape : Shape) : Member := (key, shape, true)

/-- A member that may be left out or null. -/
def may (key : String) (shape : Shape) : Member := (key, .optional shape, false)

/-- A member that may be left out and has the same form if it is there. -/
def maybe (key : String) (shape : Shape) : Member := (key, shape, false)

end AppConfig.Rpc
