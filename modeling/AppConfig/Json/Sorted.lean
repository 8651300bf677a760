import AppConfig.Json.Basic

/-!
# AppConfig.Json.Sorted

Objects as tables: members in the order of their keys, each key once. Of several members with one
key the last counts.
-/

namespace AppConfig.Json

/-- Puts a member in its place, over one with the same key. -/
def insertMember (key : String) (value : Json) : List (String × Json) → List (String × Json)
  | [] => [(key, value)]
  | (k, v) :: rest =>
    if key < k then (key, value) :: (k, v) :: rest
    else if key = k then (key, value) :: rest
    else (k, v) :: insertMember key value rest

mutual

/-- The value with all its objects as tables. -/
def sorted : Json → Json
  | .arr items => .arr (sortedItems items)
  | .obj members => .obj (sortedMembers [] members)
  | v => v

def sortedItems : List Json → List Json
  | [] => []
  | v :: vs => sorted v :: sortedItems vs

/-- Adds members to a table, one after the other. -/
def sortedMembers (table : List (String × Json)) : List (String × Json) → List (String × Json)
  | [] => table
  | (k, v) :: ms => sortedMembers (insertMember k (sorted v) table) ms

end

end AppConfig.Json
