import AppConfig.Decimal.Shortest
import AppConfig.Text.Quoted
import AppConfig.Yaml.Fault
import AppConfig.Yaml.Scalar

/-!
# AppConfig.Yaml.Failure

Why a text is no document, in the order in which reading proceeds: the text is malformed, an alias
names nothing, the tree is too deep or repeats itself too often, a value is not acceptable, or a
second document follows.
-/

namespace AppConfig.Yaml

/-- The way from the root to a value. -/
inductive Path where
  | root
  | item (parent : Path) (index : Nat)
  | entry (parent : Path) (key : String)
  /-- Below a key that is no scalar. -/
  | unnamed (parent : Path)
  /-- Through an alias. -/
  | alias (parent : Path)
  deriving Repr

namespace Path

/-- The path in front of a key. -/
def describe : Path → String
  | .root => "."
  | .item p i => p.describe ++ "[" ++ toString i ++ "]"
  | .entry .root key => key
  | .entry p key => p.describe ++ "." ++ key
  | .unnamed .root => "?"
  | .unnamed p => p.describe ++ ".?"
  | .alias p => p.describe

end Path

/-- Why a value is not acceptable. -/
inductive Objection where
  | scalar (why : Scalar.Rejection)
  | duplicateKey (key : Value)
  | emptyTag

namespace Objection

/-- Only a negative exponent has a sign. -/
def keyStyle : Decimal.Style := ⟨""⟩

/-- The text of a float as a key. -/
def floatText (x : Binary64) : String :=
  if x.isNaN then ".nan"
  else if x.isInfinite then (if x.signBit then "-.inf" else ".inf")
  else Decimal.write keyStyle x

/-- How a duplicate key is named. -/
def keyText : Value → String
  | .null => "with null key"
  | .bool b => "with key `" ++ (if b then "true" else "false") ++ "`"
  | .int i => "with key " ++ toString i
  | .float x => "with key " ++ floatText x
  | .str s => "with key " ++ Text.quoted s
  | .seq _ => "in YAML map"
  | .map _ => "in YAML map"
  | .tagged _ _ => "in YAML map"

def message : Objection → String
  | .scalar (.wrongForm text wanted) =>
    "invalid value: string " ++ Text.quoted text ++ ", expected " ++ wanted
  | .scalar (.tooWide i signed) =>
    "invalid type: integer `" ++ toString i ++ "` as " ++ (if signed then "i128" else "u128") ++
      ", expected any YAML value"
  | .duplicateKey key => "duplicate entry " ++ keyText key
  | .emptyTag => "empty YAML tag is not allowed"

end Objection

inductive Failure where
  | malformed (fault : Fault)
  | unknownAnchor (mark : Mark)
  | tooDeep (mark : Mark)
  | tooManyAliases
  | objection (why : Objection) (mark : Mark) (path : Path)
  | severalDocuments

namespace Failure

/-- The place of the failure, if it has one. -/
def mark? : Failure → Option Mark
  | .malformed f => some f.mark
  | .unknownAnchor m => some m
  | .tooDeep m => some m
  | .tooManyAliases => none
  | .objection _ m _ => some m
  | .severalDocuments => none

def message : Failure → String
  | .malformed f => f.message
  | .unknownAnchor m => "unknown anchor" ++ m.describeUnlessOrigin
  | .tooDeep m => "recursion limit exceeded" ++ m.describeUnlessOrigin
  | .tooManyAliases => "repetition limit exceeded"
  | .objection why m path =>
    let place := path.describe
    (if place == "." then "" else place ++ ": ") ++ why.message ++ m.describeUnlessOrigin
  | .severalDocuments =>
    "deserializing from YAML containing more than one document is not supported"

/-- Line and column of the failure, counted from one. -/
def location? (f : Failure) : Option (Nat × Nat) :=
  f.mark?.map fun m => (m.line + 1, m.column + 1)

end Failure

end AppConfig.Yaml
