/-!
# AppConfig.Text.Line

The lines of a text. A line ends at a line feed, and one carriage return before that line feed
belongs to the ending. A text that ends with a line feed has no further, empty line, and a
carriage return that no line feed follows is an ordinary character of its line.
-/

namespace AppConfig.Text

/-- Puts `c` in front of the first line. -/
def consLine (c : Char) : List (List Char) → List (List Char)
  | [] => [[c]]
  | l :: ls => (c :: l) :: ls

/-- The lines of a text, without their endings. -/
def lines : List Char → List (List Char)
  | [] => []
  | '\r' :: '\n' :: cs => [] :: lines cs
  | c :: cs => if c = '\n' then [] :: lines cs else consLine c (lines cs)

/-- The line numbered `n`, counted from zero. -/
def line? (cs : List Char) (n : Nat) : Option (List Char) := (lines cs)[n]?

end AppConfig.Text
