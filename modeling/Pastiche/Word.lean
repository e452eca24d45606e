/-! Whole numbers of a fixed number of bits. -/

namespace Pastiche.Word

def count (bits : Nat) : Nat := Nat.pow 2 bits

def largest (bits : Nat) : Nat := count bits - 1

end Pastiche.Word
