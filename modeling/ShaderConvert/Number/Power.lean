/-
Powers of two and of ten, the sizes that words and digits come in.
-/
namespace ShaderConvert

/-- How many values `n` bits have. -/
def twoTo (n : Nat) : Nat := Nat.pow 2 n

/-- How many values `n` decimal digits have. -/
def tenTo (n : Nat) : Nat := Nat.pow 10 n

end ShaderConvert
