import Mathlib.Algebra.Order.Group.Nat

/-!
# Base — numbers as bytes

The little-endian bytes of a number, least significant first, and the number
that a sequence of bytes stands for.
-/

namespace LittleEndian

/-- The `i`-th byte of `n`. -/
def byte (n i : Nat) : Nat := n / 256 ^ i % 256

/-- The number whose lowest `w` bytes are `f 0`, ..., `f (w - 1)`. -/
def ofBytes : Nat → (Nat → Nat) → Nat
  | 0, _ => 0
  | w + 1, f => f 0 + 256 * ofBytes w fun i => f (i + 1)

theorem ofBytes_congr {w : Nat} {f g : Nat → Nat} (h : ∀ i, i < w → f i = g i) :
    ofBytes w f = ofBytes w g := by
  induction w generalizing f g with
  | zero => rfl
  | succ w ih =>
      rw [ofBytes, ofBytes, h 0 (Nat.succ_pos w),
        ih fun i hi => h (i + 1) (Nat.succ_lt_succ hi)]

theorem byte_succ (n i : Nat) : byte n (i + 1) = byte (n / 256) i := by
  rw [byte, byte, Nat.pow_succ', Nat.div_div_eq_div_mul]

/-- **Round trip**: `w` bytes hold a number modulo `256 ^ w`. -/
theorem ofBytes_byte (w n : Nat) : ofBytes w (byte n) = n % 256 ^ w := by
  induction w generalizing n with
  | zero => simp [ofBytes, Nat.mod_one]
  | succ w ih =>
      simp only [ofBytes, byte_succ]
      rw [ih (n / 256), byte, Nat.pow_zero, Nat.div_one, Nat.pow_succ', Nat.mod_mul]

theorem ofBytes_byte_of_lt {w n : Nat} (h : n < 256 ^ w) : ofBytes w (byte n) = n := by
  rw [ofBytes_byte, Nat.mod_eq_of_lt h]

end LittleEndian
