import Mathlib.Data.Nat.Digits.Defs

/-!
# Base — blocks of bytes as numbers, most significant byte first
-/

namespace BigEndian

/-- The number that a sequence of bytes stands for, its first byte the most
significant one. -/
def ofBytes (bs : List UInt8) : Nat := Nat.ofDigits 256 (bs.reverse.map UInt8.toNat)

theorem ofBytes_append (bs cs : List UInt8) :
    ofBytes (bs ++ cs) = ofBytes bs * 256 ^ cs.length + ofBytes cs := by
  simp only [ofBytes, List.reverse_append, List.map_append, Nat.ofDigits_append,
    List.length_map, List.length_reverse]
  rw [Nat.add_comm, Nat.mul_comm]

theorem ofBytes_replicate_zero (n : Nat) : ofBytes (List.replicate n 0) = 0 := by
  simp [ofBytes, Nat.ofDigits_replicate_zero]

/-- Zero bytes behind a number shift it. -/
theorem ofBytes_append_zeros (bs : List UInt8) (n : Nat) :
    ofBytes (bs ++ List.replicate n 0) = ofBytes bs * 256 ^ n := by
  rw [ofBytes_append, ofBytes_replicate_zero, List.length_replicate, Nat.add_zero]

/-- Four bytes as a number. -/
theorem ofBytes_four (b₀ b₁ b₂ b₃ : UInt8) :
    ofBytes [b₀, b₁, b₂, b₃] =
      ((b₀.toNat * 256 + b₁.toNat) * 256 + b₂.toNat) * 256 + b₃.toNat := by
  simp only [ofBytes, List.reverse_cons, List.reverse_nil, List.nil_append,
    List.cons_append, List.map_cons, List.map_nil, Nat.ofDigits_cons,
    Nat.ofDigits_nil]
  omega

end BigEndian
