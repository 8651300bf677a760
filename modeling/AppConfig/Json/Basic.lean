import AppConfig.Decimal.Binary64

/-!
# AppConfig.Json.Basic

JSON values. Integers are exact; every other number is a double. Objects keep the order in which
their members are given.
-/

namespace AppConfig

inductive Json where
  | null
  | bool (b : Bool)
  | int (i : Int)
  | float (x : Binary64)
  | str (s : String)
  | arr (items : List Json)
  | obj (members : List (String × Json))
  deriving Repr, Inhabited

namespace Json

/-- A natural number. -/
def nat (n : Nat) : Json := .int n

/-- The member of an object under a key; of several, the last. -/
def member? (members : List (String × Json)) (key : String) : Option Json :=
  (members.reverse.find? (·.1 == key)).map (·.2)

def get? (v : Json) (key : String) : Option Json :=
  match v with
  | .obj ms => member? ms key
  | _ => none

/-- An optional value, with null for none. -/
def ofOption {α : Type} (f : α → Json) : Option α → Json
  | some a => f a
  | none => .null

end Json

end AppConfig
