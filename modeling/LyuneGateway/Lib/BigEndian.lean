import Mathlib.Data.Nat.Basic
import Mathlib.Tactic.Ring

/-!
# Big-endian byte strings

A natural number is written on a fixed number of bytes, most significant first,
and any byte string is read back as a natural number. Bits that do not fit the
width are dropped by `write`, so reading undoes writing modulo `256 ^ width`.
-/

namespace BigEndian

/-- The number a byte string denotes. -/
def read : List UInt8 → Nat
  | [] => 0
  | byte :: rest => byte.toNat * 256 ^ rest.length + read rest

/-- The lowest `width` bytes of a number, most significant first. -/
def write : Nat → Nat → List UInt8
  | 0, _ => []
  | width + 1, n => UInt8.ofNat (n / 256 ^ width) :: write width n

/-- The number in the `width` bytes that start at `offset`. -/
def readAt (bytes : List UInt8) (offset width : Nat) : Nat :=
  read ((bytes.drop offset).take width)

@[simp] theorem length_write (width n : Nat) : (write width n).length = width := by
  induction width with
  | zero => rfl
  | succ width ih => simp [write, ih]

theorem read_lt (bytes : List UInt8) : read bytes < 256 ^ bytes.length := by
  induction bytes with
  | nil => simp [read]
  | cons byte rest ih =>
      have small : byte.toNat < 256 := byte.toNat_lt
      have high : byte.toNat * 256 ^ rest.length ≤ 255 * 256 ^ rest.length :=
        Nat.mul_le_mul_right _ (by omega)
      simp only [read, List.length_cons, pow_succ]
      omega

theorem readAt_lt (bytes : List UInt8) (offset width : Nat) :
    readAt bytes offset width < 256 ^ width :=
  lt_of_lt_of_le (read_lt _)
    (Nat.pow_le_pow_right (by norm_num) (by simp))

theorem read_write (width n : Nat) : read (write width n) = n % 256 ^ width := by
  induction width with
  | zero => simp [write, read, Nat.mod_one]
  | succ width ih =>
      have digit : (UInt8.ofNat (n / 256 ^ width)).toNat = n / 256 ^ width % 256 := by simp
      rw [write, read, length_write, ih, digit, pow_succ, Nat.mod_mul]
      ring

theorem read_write_of_lt {width n : Nat} (small : n < 256 ^ width) :
    read (write width n) = n := by
  rw [read_write, Nat.mod_eq_of_lt small]

/-- Only the digits that fit the width are written. -/
theorem write_congr {width m n : Nat} (same : m % 256 ^ width = n % 256 ^ width) :
    write width m = write width n := by
  induction width with
  | zero => rfl
  | succ width ih =>
      have digit (k : Nat) : k / 256 ^ width % 256 = k % 256 ^ (width + 1) / 256 ^ width := by
        rw [pow_succ, Nat.mod_mul_right_div_self]
      have tail (k : Nat) : k % 256 ^ width = k % 256 ^ (width + 1) % 256 ^ width :=
        (Nat.mod_mod_of_dvd k (pow_dvd_pow 256 (Nat.le_succ width))).symm
      have first : UInt8.ofNat (m / 256 ^ width) = UInt8.ofNat (n / 256 ^ width) := by
        apply UInt8.toNat_inj.mp
        simp only [UInt8.toNat_ofNat']
        rw [digit, digit, same]
      rw [write, write, first, ih (by rw [tail m, tail n, same])]

/-- Bytes that were read are written back. -/
theorem write_read (bytes : List UInt8) : write bytes.length (read bytes) = bytes := by
  induction bytes with
  | nil => rfl
  | cons byte rest ih =>
      have small := read_lt rest
      have digit : (byte.toNat * 256 ^ rest.length + read rest) / 256 ^ rest.length =
          byte.toNat := by
        rw [Nat.mul_comm, Nat.mul_add_div (Nat.pow_pos (by norm_num)), Nat.div_eq_of_lt small, Nat.add_zero]
      have tail : write rest.length (byte.toNat * 256 ^ rest.length + read rest) = rest := by
        rw [write_congr (n := read rest) (by simp [Nat.add_mod]), ih]
      rw [List.length_cons, write, read, digit, tail]
      simp

/-- A field written after `front` is read back whatever follows it. -/
theorem readAt_write {front : List UInt8} {offset width n : Nat} (start : front.length = offset)
    (small : n < 256 ^ width) (rest : List UInt8) :
    readAt (front ++ (write width n ++ rest)) offset width = n := by
  have dropped : (front ++ (write width n ++ rest)).drop offset = write width n ++ rest := by
    simp [← start]
  have taken : (write width n ++ rest).take width = write width n := by
    simp
  rw [readAt, dropped, taken, read_write_of_lt small]

/-- A field that was read is written back as it stands there. -/
theorem write_readAt {bytes : List UInt8} {offset width : Nat}
    (inside : offset + width ≤ bytes.length) :
    write width (readAt bytes offset width) = (bytes.drop offset).take width := by
  have length : ((bytes.drop offset).take width).length = width := by
    rw [List.length_take, List.length_drop]
    omega
  have back := write_read ((bytes.drop offset).take width)
  rwa [length] at back

end BigEndian
