/-!
# AppConfig.Text.Split

Cutting a list at a separator, everywhere (`split`) or at its first place only (`cut?`). The
separators themselves are dropped.
-/

namespace AppConfig.Text

variable {α : Type} [DecidableEq α]

/-- The parts between separators; there is one part more than there are separators. -/
def split (sep : α) : List α → List (List α)
  | [] => [[]]
  | a :: as =>
    if a = sep then [] :: split sep as
    else
      match split sep as with
      | [] => [[a]]
      | p :: ps => (a :: p) :: ps

/-- The part before the first separator and the part behind it; `none` without one. -/
def cut? (sep : α) : List α → Option (List α × List α)
  | [] => none
  | a :: as =>
    if a = sep then some ([], as)
    else (cut? sep as).map fun r => (a :: r.1, r.2)

end AppConfig.Text
