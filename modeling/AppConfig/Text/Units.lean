/-!
# AppConfig.Text.Units

Editors count columns in UTF-16 code units: a character outside the basic plane takes two.
-/

namespace AppConfig.Text

/-- UTF-16 code units of one character. -/
def unitCount (c : Char) : Nat := if c.toNat < 0x10000 then 1 else 2

/-- UTF-16 code units of a text. -/
def units : List Char → Nat
  | [] => 0
  | c :: cs => unitCount c + units cs

end AppConfig.Text
