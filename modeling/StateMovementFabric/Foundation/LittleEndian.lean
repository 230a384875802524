import Mathlib.Algebra.Order.Ring.Nat
import Mathlib.Tactic.Ring

namespace StateMovementFabric
namespace Foundation

/-!
# Fixed-width little-endian fields

Every integer of a durable record or a message is written in a fixed number of
bytes, least significant byte first.  Writing keeps the low-order bytes of the
value and drops the rest, so a value that does not fit its field is silently
reduced modulo the field's range.  Reading is total on every byte string.
-/

/-- The `width` low-order bytes of a value, least significant byte first. -/
def storeLe (value : Nat) : Nat -> List UInt8
  | 0 => []
  | width + 1 => UInt8.ofNat (value % 256) :: storeLe (value / 256) width

/-- The value of a byte string read least significant byte first. -/
def loadLe : List UInt8 -> Nat
  | [] => 0
  | byte :: rest => byte.toNat + 256 * loadLe rest

@[simp] theorem storeLe_length (value width : Nat) :
    (storeLe value width).length = width := by
  induction width generalizing value with
  | zero => rfl
  | succ width ih => simp [storeLe, ih]

/-- Reading a field back gives the value reduced to the field's range. -/
theorem loadLe_storeLe (value width : Nat) :
    loadLe (storeLe value width) = value % 256 ^ width := by
  induction width generalizing value with
  | zero => simp [storeLe, loadLe, Nat.mod_one]
  | succ width ih =>
      have byte : (UInt8.ofNat (value % 256)).toNat = value % 256 := by
        rw [UInt8.toNat_ofNat']
        omega
      rw [storeLe, loadLe, ih, byte, Nat.pow_succ', Nat.mod_mul]

/-- A value that fits its field survives the field. -/
theorem loadLe_storeLe_of_lt {value width : Nat} (fits : value < 256 ^ width) :
    loadLe (storeLe value width) = value := by
  rw [loadLe_storeLe, Nat.mod_eq_of_lt fits]

/-- A field is determined by its value. -/
theorem storeLe_loadLe (bytes : List UInt8) : storeLe (loadLe bytes) bytes.length = bytes := by
  induction bytes with
  | nil => rfl
  | cons byte rest ih =>
      have small := byte.toNat_lt
      have low : (byte.toNat + 256 * loadLe rest) % 256 = byte.toNat := by omega
      have high : (byte.toNat + 256 * loadLe rest) / 256 = loadLe rest := by omega
      rw [List.length_cons, loadLe, storeLe, low, high, ih, UInt8.ofNat_toNat]

theorem loadLe_lt (bytes : List UInt8) : loadLe bytes < 256 ^ bytes.length := by
  induction bytes with
  | nil => simp [loadLe]
  | cons byte rest ih =>
      have small := byte.toNat_lt
      rw [List.length_cons, loadLe, Nat.pow_succ']
      omega

end Foundation
end StateMovementFabric
