/-!
# AppConfig.Power

Powers of two and of ten: the bounds of machine words and the scales of decimals.
-/

namespace AppConfig

def twoTo (n : Nat) : Nat := Nat.pow 2 n

def tenTo (n : Nat) : Nat := Nat.pow 10 n

end AppConfig
