import AppConfig.Decimal.Binary64

/-!
# AppConfig.Yaml.Value

The tree of a document.

* `Value.untagged` — the content below any tags.
* `Value.same` — equality of mapping keys: by value, with the order of mapping entries ignored.
* `Value.get?` — the entry of a mapping under a plain string key.
-/

namespace AppConfig.Yaml

/-- A tag of a node, without the `!` that introduces it. A lone `!` keeps its mark. -/
structure Tag where
  text : String
  deriving DecidableEq, Repr

namespace Tag

/-- The text without one leading `!`, unless nothing else is left. -/
def bare (t : Tag) : String :=
  match t.text.toList with
  | '!' :: c :: cs => String.ofList (c :: cs)
  | _ => t.text

/-- The tag as it is shown. -/
def display (t : Tag) : String := "!" ++ t.bare

end Tag

inductive Value where
  | null
  | bool (b : Bool)
  | int (i : Int)
  | float (x : Binary64)
  | str (s : String)
  | seq (items : List Value)
  | map (entries : List (Value × Value))
  | tagged (tag : Tag) (content : Value)
  deriving Repr

namespace Value

/-- The content below any number of tags. -/
def untagged : Value → Value
  | .tagged _ v => v.untagged
  | v => v

/-- The entries, if the value is a mapping below its tags. -/
def entries? (v : Value) : Option (List (Value × Value)) :=
  match v.untagged with
  | .map es => some es
  | _ => none

/-- The value is the plain string `key`; a tagged string is not. -/
def isKey (key : String) : Value → Bool
  | .str s => s == key
  | _ => false

/-- The value under a plain string key. -/
def get? (entries : List (Value × Value)) (key : String) : Option Value :=
  (entries.find? fun e => e.1.isKey key).map (·.2)

mutual

/-- Equality by value. Mappings are equal when they have the same entries in any order. -/
def same : Value → Value → Bool
  | .null, .null => true
  | .bool a, .bool b => a == b
  | .int a, .int b => a == b
  | .float a, .float b => a.same b
  | .str a, .str b => a == b
  | .seq a, .seq b => sameItems a b
  | .map a, .map b => a.length == b.length && sameEntries a b
  | .tagged s a, .tagged t b => s.bare == t.bare && same a b
  | _, _ => false

def sameItems : List Value → List Value → Bool
  | [], [] => true
  | a :: as, b :: bs => same a b && sameItems as bs
  | _, _ => false

/-- Every entry of the first list is one of the second. -/
def sameEntries : List (Value × Value) → List (Value × Value) → Bool
  | [], _ => true
  | (k, v) :: rest, bs => bs.any (fun b => same k b.1 && same v b.2) && sameEntries rest bs

end

end Value

end AppConfig.Yaml
