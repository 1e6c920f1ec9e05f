import Mathlib.Data.Nat.Digits.Defs

/-!
# Base — strings in buffers

A C string is written with a zero behind it and read up to the zero. Hex digits
are written with a fixed width and read back.
-/

/-- Text without a zero. -/
structure CString where
  text : List Char
  noZero : Char.ofNat 0 ∉ text

namespace CString

/-! ## Buffers -/

/-- A string written at an offset. A buffer that it does not fit in gets
longer: it is then written over what lies behind. -/
def write (buff : List Char) (offset : Nat) (text : List Char) : List Char :=
  buff.take offset ++ text ++ Char.ofNat 0 :: buff.drop (offset + text.length + 1)

/-- The string in a buffer. -/
def read (buff : List Char) : List Char := buff.takeWhile (· ≠ Char.ofNat 0)

/-- Strings that are written one after the other, `w` apart. -/
def writeEach (w : Nat) (texts : Nat → List Char) (n : Nat) (buff : List Char) : List Char :=
  (List.range n).foldl (fun buff i => write buff (i * w) (texts i)) buff

section
variable {buff text rest : List Char} {texts : Nat → List Char} {w n : Nat}

theorem write_zero (buff text : List Char) :
    write buff 0 text = text ++ Char.ofNat 0 :: buff.drop (text.length + 1) := by
  simp [write]

theorem length_write_zero (buff text : List Char) :
    (write buff 0 text).length = max buff.length (text.length + 1) := by
  simp [write_zero]
  omega

theorem read_append_zero (h : Char.ofNat 0 ∉ text) :
    read (text ++ Char.ofNat 0 :: rest) = text := by
  have hall : ∀ c ∈ text, decide (c ≠ Char.ofNat 0) = true := by
    intro c hc
    simp only [ne_eq, decide_eq_true_eq]
    rintro rfl
    exact h hc
  rw [read, List.takeWhile_append_of_pos hall]
  simp

theorem writeEach_succ (w : Nat) (texts : Nat → List Char) (n : Nat) (buff : List Char) :
    writeEach w texts (n + 1) buff = write (writeEach w texts n buff) (n * w) (texts n) := by
  rw [writeEach, List.range_succ, List.foldl_append]
  rfl

theorem length_flatMap_range (hw : ∀ i, (texts i).length = w) (n : Nat) :
    ((List.range n).flatMap texts).length = n * w := by
  induction n with
  | zero => simp
  | succ n ih =>
      rw [List.range_succ, List.flatMap_append, List.length_append, ih]
      simp [hw, Nat.succ_mul]

/-- **Each string goes over the end of the one before.** -/
theorem writeEach_eq (hw : ∀ i, (texts i).length = w) (n : Nat) (buff : List Char) :
    writeEach w texts (n + 1) buff =
      (List.range (n + 1)).flatMap texts ++ Char.ofNat 0 :: buff.drop ((n + 1) * w + 1) := by
  induction n with
  | zero =>
      rw [writeEach_succ]
      simp [writeEach, write, hw]
  | succ n ih =>
      have hlength := length_flatMap_range hw (n + 1)
      have htake : (writeEach w texts (n + 1) buff).take ((n + 1) * w) =
          (List.range (n + 1)).flatMap texts := by
        rw [ih, ← hlength, List.take_left]
      have hdrop : (writeEach w texts (n + 1) buff).drop
          ((n + 1) * w + (texts (n + 1)).length + 1) = buff.drop ((n + 1 + 1) * w + 1) := by
        have hsum : (n + 1) * w + (texts (n + 1)).length + 1 =
            ((List.range (n + 1)).flatMap texts).length + (w + 1) := by
          rw [hw, hlength]
          omega
        rw [ih, hsum, List.drop_length_add_append, List.drop_succ_cons, List.drop_drop]
        congr 1
        rw [Nat.succ_mul (n + 1) w]
        omega
      rw [writeEach_succ, write, htake, hdrop, List.range_succ (n := n + 1), List.flatMap_append]
      simp

theorem length_writeEach (hw : ∀ i, (texts i).length = w) (n : Nat) (buff : List Char) :
    (writeEach w texts (n + 1) buff).length = max buff.length ((n + 1) * w + 1) := by
  rw [writeEach_eq hw, List.length_append, length_flatMap_range hw]
  simp
  omega

end

/-! ## Hex digits -/

def digit (upper : Bool) (d : Nat) : Char :=
  if upper then (Nat.digitChar d).toUpper else Nat.digitChar d

/-- The last `w` digits of a number: all of `%0wx` when it is below `16 ^ w`. -/
def hex (upper : Bool) : Nat → Nat → List Char
  | 0, _ => []
  | w + 1, n => hex upper w (n / 16) ++ [digit upper (n % 16)]

def digitValue (c : Char) : Nat :=
  if c.isDigit then c.toNat - 48 else c.toLower.toNat - 87

/-- The number that digits stand for. -/
def value (text : List Char) : Nat := text.foldl (fun v c => 16 * v + digitValue c) 0

section
variable {upper : Bool}

theorem digit_all : ∀ (upper : Bool) (d : Fin 16),
    digitValue (digit upper d) = d ∧ (digit upper d).isAlphanum = true := by
  decide

theorem digit_mod (upper : Bool) (n : Nat) :
    digitValue (digit upper (n % 16)) = n % 16 ∧ (digit upper (n % 16)).isAlphanum = true :=
  digit_all upper ⟨n % 16, Nat.mod_lt n (by omega)⟩

@[simp] theorem length_hex (w n : Nat) : (hex upper w n).length = w := by
  induction w generalizing n with
  | zero => rfl
  | succ w ih => simp [hex, ih]

theorem isAlphanum_of_mem_hex {w n : Nat} {c : Char} (hc : c ∈ hex upper w n) :
    c.isAlphanum = true := by
  induction w generalizing n with
  | zero => cases hc
  | succ w ih =>
      rcases List.mem_append.mp hc with hc | hc
      · exact ih hc
      · rw [List.mem_singleton.mp hc]
        exact (digit_mod upper n).2

theorem zero_notMem_hex (w n : Nat) : Char.ofNat 0 ∉ hex upper w n := by
  intro hmem
  exact absurd (isAlphanum_of_mem_hex hmem) (by decide)

theorem value_hex (w n : Nat) : value (hex upper w n) = n % 16 ^ w := by
  induction w generalizing n with
  | zero => simp [hex, value, Nat.mod_one]
  | succ w ih =>
      have hdigit := (digit_mod upper n).1
      have hfront : (hex upper w (n / 16)).foldl (fun v c => 16 * v + digitValue c) 0 =
          n / 16 % 16 ^ w := ih (n / 16)
      rw [hex, value, List.foldl_append, hfront]
      simp only [List.foldl_cons, List.foldl_nil]
      rw [hdigit, Nat.pow_succ', Nat.mod_mul, Nat.add_comm]

theorem value_hex_of_lt {w n : Nat} (h : n < 16 ^ w) : value (hex upper w n) = n := by
  rw [value_hex, Nat.mod_eq_of_lt h]

/-! ## Dumps -/

/-- A byte of a dump. -/
def dumpByte (upper : Bool) (b : UInt8) : List Char := hex upper 2 b.toNat ++ [' ']

/-- The bytes of a dump. -/
def readDump : List Char → List UInt8
  | high :: low :: _ :: rest => UInt8.ofNat (value [high, low]) :: readDump rest
  | _ => []

theorem length_dumpByte (b : UInt8) : (dumpByte upper b).length = 3 := by
  simp [dumpByte]

theorem zero_notMem_dump (upper : Bool) (bytes : List UInt8) :
    Char.ofNat 0 ∉ bytes.flatMap (dumpByte upper) := by
  intro hmem
  obtain ⟨b, -, hb⟩ := List.mem_flatMap.mp hmem
  rcases List.mem_append.mp hb with hb | hb
  · exact zero_notMem_hex 2 b.toNat hb
  · exact absurd (List.mem_singleton.mp hb) (by decide)

/-- A dump starts with a digit. -/
theorem isAlphanum_of_head_dump {bytes : List UInt8} {c : Char}
    (hc : (bytes.flatMap (dumpByte upper)).head? = some c) : c.isAlphanum = true := by
  cases bytes with
  | nil => cases hc
  | cons b bytes =>
      cases hc
      exact (digit_mod upper (b.toNat / 16)).2

theorem readDump_cons (b : UInt8) (rest : List Char) :
    readDump (dumpByte upper b ++ rest) = b :: readDump rest := by
  have hvalue : value (hex upper 2 b.toNat) = b.toNat := value_hex_of_lt b.toNat_lt
  have hdump : dumpByte upper b ++ rest =
      digit upper (b.toNat / 16 % 16) :: digit upper (b.toNat % 16) :: ' ' :: rest := rfl
  rw [hdump, readDump]
  congr 1
  have hpair : [digit upper (b.toNat / 16 % 16), digit upper (b.toNat % 16)] =
      hex upper 2 b.toNat := rfl
  rw [hpair, hvalue, UInt8.ofNat_toNat]

theorem readDump_dump (bytes : List UInt8) :
    readDump (bytes.flatMap (dumpByte upper)) = bytes := by
  induction bytes with
  | nil => rfl
  | cons b bytes ih => rw [List.flatMap_cons, readDump_cons, ih]

end

end CString
