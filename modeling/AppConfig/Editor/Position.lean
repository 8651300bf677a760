import AppConfig.Power

/-!
# AppConfig.Editor.Position

Places in an open document: a line and a column in UTF-16 units, both words of 32 bits.
-/

namespace AppConfig.Editor

/-- One past the largest line or column. -/
def wordLimit : Nat := twoTo 32

structure Position where
  line : Nat
  character : Nat
  deriving DecidableEq, Repr

structure Range where
  start : Position
  stop : Position
  deriving DecidableEq, Repr

/-- The part of a line between two columns. -/
def Range.onLine (line start stop : Nat) : Range :=
  ⟨⟨line % wordLimit, start % wordLimit⟩, ⟨line % wordLimit, stop % wordLimit⟩⟩

end AppConfig.Editor
