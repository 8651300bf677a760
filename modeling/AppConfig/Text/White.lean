/-!
# AppConfig.Text.White

White space is the Unicode property `White_Space`: tabs, breaks, the ordinary and the no-break
space, and the typographic spaces. It is used to trim, to tell blank documents, and to measure
indentation. `U+FEFF`, the byte-order mark, is not white space.
-/

namespace AppConfig.Text

/-- The characters with the Unicode property `White_Space`. -/
def isWhite (c : Char) : Bool :=
  let n := c.toNat
  (0x09 ≤ n && n ≤ 0x0D) || n == 0x20 || n == 0x85 || n == 0xA0 || n == 0x1680 ||
    (0x2000 ≤ n && n ≤ 0x200A) || n == 0x2028 || n == 0x2029 || n == 0x202F || n == 0x205F ||
    n == 0x3000

/-- A text is blank when it is white space throughout; the empty text is blank. -/
def isBlank (cs : List Char) : Bool := cs.all isWhite

def trimStart (cs : List Char) : List Char := cs.dropWhile isWhite

def trimEnd (cs : List Char) : List Char := (cs.reverse.dropWhile isWhite).reverse

/-- Drops white space at both ends. -/
def trim (cs : List Char) : List Char := trimEnd (trimStart cs)

/-- The byte-order mark. -/
def bom : Char := '\uFEFF'

/-- Drops one leading byte-order mark. -/
def dropBom : List Char → List Char
  | [] => []
  | c :: cs => if c = bom then cs else c :: cs

end AppConfig.Text
