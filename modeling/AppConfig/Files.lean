import AppConfig.Text.Split
import AppConfig.Text.Utf8

/-!
# AppConfig.Files

Files by path. A path is a run of bytes; `/` divides it into names.

* `ReadFault` — why a file cannot be read.
* `Disk` — what reading each path gives.
* `FileTree` — a tree of directories and files, and how paths are resolved in it.
-/

namespace AppConfig

inductive ReadFault where
  | notFound
  | notDirectory
  | isDirectory
  | nameTooLong
  | zeroByte
  | notText
  /-- A cause that no path alone brings about. -/
  | other (reason : String)
  deriving DecidableEq, Repr

namespace ReadFault

def message : ReadFault → String
  | .notFound => "No such file or directory (os error 2)"
  | .notDirectory => "Not a directory (os error 20)"
  | .isDirectory => "Is a directory (os error 21)"
  | .nameTooLong => "File name too long (os error 36)"
  | .zeroByte => "file name contained an unexpected NUL byte"
  | .notText => "stream did not contain valid UTF-8"
  | .other reason => reason

end ReadFault

/-- What reading each path gives. -/
abbrev Disk := Bytes → Except ReadFault Bytes

/-- A path as it is shown, with `U+FFFD` for what is no text. -/
def showPath (path : Bytes) : String := String.ofList (Text.utf8Lossy path)

/-- The names of a path: the parts between slashes. -/
def splitPath (path : Bytes) : List Bytes := Text.split 0x2F path

inductive Stored where
  | file (content : Bytes)
  | directory
  deriving DecidableEq, Repr

/-- Files and directories below the working directory, by the names that lead to them. The
directories on the way to an entry exist with it. -/
structure FileTree where
  entries : List (List Bytes × Stored)

namespace FileTree

/-- A name that stands for the directory itself. -/
def isSelf (name : Bytes) : Bool := name.isEmpty || name == [0x2E]

def parentName : Bytes := [0x2E, 0x2E]

/-- Adds an entry; a later entry hides an earlier one at the same place. -/
def insert (t : FileTree) (path : Bytes) (stored : Stored) : FileTree :=
  ⟨((splitPath path).filter (!isSelf ·), stored) :: t.entries⟩

/-- What stands at a place. -/
def at? (t : FileTree) (names : List Bytes) : Option Stored :=
  match t.entries.lookup names with
  | some s => some s
  | none =>
    if names.isEmpty || t.entries.any (fun e => names.isPrefixOf e.1) then some .directory
    else none

/-- The longest name and the longest path. -/
def nameLimit : Nat := 255
def pathLimit : Nat := 4095

/-- Follows names from a directory. `above` counts the directories between it and the working
directory when the way has left that; nothing is known up there. -/
def walk (t : FileTree) (above : Nat) (here : List Bytes) : List Bytes → Except ReadFault Stored
  | [] => .ok .directory
  | name :: rest =>
    if isSelf name then walk t above here rest
    else if name == parentName then
      match here.reverse with
      | [] => walk t (above + 1) [] rest
      | _ :: up => walk t above up.reverse rest
    else if nameLimit < name.length then .error .nameTooLong
    else if 0 < above then .error .notFound
    else
      let place := here ++ [name]
      match t.at? place with
      | none => .error .notFound
      | some .directory => walk t above place rest
      | some (.file content) =>
        match rest with
        | [] => .ok (.file content)
        | _ :: _ => .error .notDirectory

/-- Reading by path in a tree. -/
def read (t : FileTree) : Disk := fun path =>
  if path.contains 0 then .error .zeroByte
  else if path.isEmpty then .error .notFound
  else if pathLimit < path.length then .error .nameTooLong
  else
    -- a path from the root leads away from the working directory
    let above := if path.head? == some 0x2F then 1 else 0
    match t.walk above [] (splitPath path) with
    | .ok (.file content) => .ok content
    | .ok .directory => .error .isDirectory
    | .error e => .error e

end FileTree

end AppConfig
