import AppConfig.Settings.Environment
import AppConfig.Text.Utf8
import AppConfig.Text.White
import AppConfig.Text.Word

/-!
# AppConfig.Settings.EnvFile

Files of variables, one `name=value` per line.

* Blank lines and lines that begin with `#` are passed over; `export` may stand before a name.
* Single quotes keep everything in them as it is. In double quotes and outside quotes a backslash
  escapes a quote, a backslash, a dollar sign or a space, and `\n` is a line feed; `$name` and
  `${name}` stand for the value of a variable.
* Outside quotes a blank ends the value, and only a comment may follow.
* Reading stops at the first faulty line; the lines before it count. A variable that is set
  already keeps its value.
-/

namespace AppConfig.EnvFile

open Text (isWhite isWordChar)

/-- The values that the file has given so far. -/
abbrev Given := List (String × String)

/-- The value of a variable: from the environment, else from an earlier line, else nothing. -/
def resolve (env : Environment) (given : Given) (name : List Char) : List Char :=
  let name := String.ofList name
  match env.get? name with
  | some v => v.toList
  | none => ((given.lookup name).getD "").toList

inductive Quote where
  | none
  | single
  | double
  deriving DecidableEq, Repr

/-- Where in a value the reader stands. -/
inductive Mode where
  /-- Ordinary characters. -/
  | plain
  /-- Behind a backslash. -/
  | escaped
  /-- In a name behind `$`, read so far. -/
  | name (sofar : List Char)
  /-- In a name in braces, read so far. -/
  | braced (sofar : List Char)
  /-- Behind the value. -/
  | ended
  deriving DecidableEq, Repr

/-- The character that an escape stands for. -/
def unescape? (c : Char) : Option Char :=
  if c = '\\' ∨ c = '\'' ∨ c = '"' ∨ c = '$' ∨ c = ' ' then some c
  else if c = 'n' then some '\n'
  else none

/-- The rest of a value; `none` if it is faulty. -/
def readValue (lookup : List Char → List Char) : Quote → Mode → List Char → Option (List Char)
  | quote, mode, [] =>
    match quote, mode with
    | .none, .name n => some (lookup n)
    | .none, .braced _ => none
    | .none, _ => some []
    | _, _ => none
  | quote, .ended, c :: cs =>
    if c = ' ' ∨ c = '\t' then readValue lookup quote .ended cs
    else if c = '#' then some []
    else none
  | quote, .escaped, c :: cs =>
    match unescape? c with
    | some e => (readValue lookup quote .plain cs).map (e :: ·)
    | none => none
  | quote, .name n, c :: cs =>
    if isWordChar c then readValue lookup quote (.name (n ++ [c])) cs
    else if c = '\x7b' ∧ n = [] then readValue lookup quote (.braced []) cs
    else if c = '$' then (readValue lookup quote (.name []) cs).map (lookup n ++ ·)
    -- the character behind a name is never a quote or an escape
    else (readValue lookup quote .plain cs).map fun r => lookup n ++ c :: r
  | quote, .braced n, c :: cs =>
    if c = '\x7d' then (readValue lookup quote .plain cs).map (lookup n ++ ·)
    else readValue lookup quote (.braced (n ++ [c])) cs
  | .single, .plain, c :: cs =>
    if c = '\'' then readValue lookup .none .plain cs
    else (readValue lookup .single .plain cs).map (c :: ·)
  | .double, .plain, c :: cs =>
    if c = '$' then readValue lookup .double (.name []) cs
    else if c = '"' then readValue lookup .none .plain cs
    else if c = '\\' then readValue lookup .double .escaped cs
    else (readValue lookup .double .plain cs).map (c :: ·)
  | .none, .plain, c :: cs =>
    if c = '$' then readValue lookup .none (.name []) cs
    else if c = '\'' then readValue lookup .single .plain cs
    else if c = '"' then readValue lookup .double .plain cs
    else if c = '\\' then readValue lookup .none .escaped cs
    else if c = ' ' ∨ c = '\t' then readValue lookup .none .ended cs
    else (readValue lookup .none .plain cs).map (c :: ·)

/-- The name at the start of a text, and the text behind it. -/
def readName? (cs : List Char) : Option (List Char × List Char) :=
  if cs.head?.any (fun c => c.isAlpha || c == '_') then
    some (cs.span fun c => c.isAlphanum || c == '_' || c == '.')
  else none

/-- Drops an equals sign. -/
def dropEqual? : List Char → Option (List Char)
  | '=' :: cs => some cs
  | _ => none

/-- The name of a line, and the text behind its equals sign. `export` before a name is dropped;
with an equals sign behind it, it is a name itself. -/
def readAssignment? (cs : List Char) : Option (List Char × List Char) :=
  match readName? cs with
  | none => none
  | some (name, rest) =>
    match dropEqual? (Text.trimStart rest) with
    | some value => some (name, value)
    | none =>
      if name = "export".toList then
        match readName? (Text.trimStart rest) with
        | none => none
        | some (name, rest) => (dropEqual? (Text.trimStart rest)).map fun value => (name, value)
      else none

/-- What a line says. -/
inductive Line where
  | nothing
  | assignment (name value : String)
  | faulty
  deriving DecidableEq, Repr

def readLine (env : Environment) (given : Given) (line : List Char) : Line :=
  match Text.trim line with
  | [] => .nothing
  | '#' :: _ => .nothing
  | cs =>
    match readAssignment? cs with
    | none => .faulty
    | some (name, value) =>
      match Text.trimStart value with
      | [] => .assignment (String.ofList name) ""
      | '#' :: _ => .assignment (String.ofList name) ""
      | cs =>
        match readValue (resolve env given) .none .plain cs with
        | some v => .assignment (String.ofList name) (String.ofList v)
        | none => .faulty

/-- The lines of a file as bytes, without their ends. -/
def byteLines : Bytes → List Bytes
  | [] => []
  | [b] => if b = 0x0A then [[]] else [[b]]
  | b :: c :: bs =>
    if b = 0x0A then [] :: byteLines (c :: bs)
    else if b = 0x0D ∧ c = 0x0A then [] :: byteLines bs
    else
      match byteLines (c :: bs) with
      | [] => [[b]]
      | l :: ls => (b :: l) :: ls

/-- Applies lines to an environment, up to the first faulty one. -/
def applyLines (env : Environment) (given : Given) : List Bytes → Environment
  | [] => env
  | line :: lines =>
    match Text.utf8? line with
    | none => env
    | some text =>
      match readLine env given text with
      | .faulty => env
      | .nothing => applyLines env given lines
      | .assignment name value =>
        applyLines (env.setDefault name value) ((name, value) :: given) lines

/-- An environment with the variables of a file added. -/
def apply (env : Environment) (content : Bytes) : Environment :=
  applyLines env [] (byteLines content)

end AppConfig.EnvFile
