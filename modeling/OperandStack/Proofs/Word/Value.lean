import Mathlib.Algebra.Ring.Nat
import Mathlib.Data.List.Induction
import OperandStack.Word.Text

/-!
# Words as numbers and as digits

The number that bytes denote, and that of words made in each way. The digits of a word are those of
its number: all 64 of them with zeros on the left, or as few as possible.
-/

set_option autoImplicit false

namespace OperandStack

/-! ## Numbers of byte strings -/

namespace Bytes

theorem toNat_bigEndian (width value : Nat) :
    toNat (bigEndian width value) = value % 256 ^ width := by
  induction width generalizing value with
  | zero => simp [bigEndian, Nat.mod_one]
  | succ width ih =>
      have split : 256 ^ (width + 1) = 256 * 256 ^ width := by
        rw [Nat.pow_succ, Nat.mul_comm]
      rw [bigEndian, toNat_append_singleton, ih, UInt8.toNat_ofNat', split, Nat.mod_mul]
      omega

theorem toNat_append (front back : Bytes) :
    toNat (front ++ back) = toNat front * 256 ^ back.length + toNat back := by
  induction back using List.reverseRecOn with
  | nil => simp
  | append_singleton back byte ih =>
      rw [← List.append_assoc, toNat_append_singleton, ih, toNat_append_singleton,
        List.length_append, List.length_singleton, Nat.pow_succ, Nat.add_mul, Nat.mul_assoc,
        Nat.add_assoc]

theorem toNat_lt (bytes : Bytes) : toNat bytes < 256 ^ bytes.length := by
  induction bytes using List.reverseRecOn with
  | nil => simp
  | append_singleton bytes byte ih =>
      have low := byte.toNat_lt
      rw [toNat_append_singleton, List.length_append, List.length_singleton, Nat.pow_succ]
      omega

@[simp]
theorem toNat_replicate_zero (count : Nat) : toNat (List.replicate count 0) = 0 := by
  induction count with
  | zero => rfl
  | succ count ih => rw [List.replicate_succ', toNat_append_singleton, ih]; rfl

end Bytes

/-! ## Numbers of words and addresses -/

theorem Address.toNat_lt (address : Address) : address.toNat < 2 ^ 160 := by
  have bound := Bytes.toNat_lt address.bytes.toList
  rwa [address.bytes.length_toList] at bound

namespace Word

theorem toNat_lt (word : Word) : word.toNat < 2 ^ 256 := by
  have bound := Bytes.toNat_lt word.bytes.toList
  rwa [word.bytes.length_toList] at bound

@[simp]
theorem toNat_toUInt256 (word : Word) : word.toUInt256.toNat = word.toNat := by
  rw [toUInt256, BitVec.toNat_ofNat]
  exact Nat.mod_eq_of_lt word.toNat_lt

@[simp]
theorem toNat_ofUInt256 (value : UInt256) : (ofUInt256 value).toNat = value.toNat := by
  rw [ofUInt256, toNat, FixedBytes.toNat, FixedBytes.ofNat, Bytes.toNat_bigEndian]
  exact Nat.mod_eq_of_lt value.isLt

@[simp]
theorem toNat_ofUInt64 (size : UInt64) : (ofUInt64 size).toNat = size.toNat := by
  have bound := size.toNat_lt
  rw [ofUInt64, toNat_ofUInt256, BitVec.toNat_ofNat]
  omega

@[simp]
theorem toNat_ofAddress (address : Address) : (ofAddress address).toNat = address.toNat := by
  rw [toNat, FixedBytes.toNat, ofAddress, Bytes.toNat_append, Bytes.toNat_replicate_zero,
    Nat.zero_mul, Nat.zero_add]
  rfl

end Word

/-! ## Digits -/

namespace Hex

private theorem toUInt8_digitChar {value : Nat} (small : value < 16) :
    value.digitChar.toNat.toUInt8 = digit value := by
  have all : ∀ nibble : Fin 16, nibble.val.digitChar.toNat.toUInt8 = digit nibble.val := by
    decide
  exact all ⟨value, small⟩

theorem minimal_of_lt {value : Nat} (small : value < 16) : minimal value = [digit value] := by
  rw [minimal, Nat.toDigits_of_lt_base small, List.map_singleton, toUInt8_digitChar small]

theorem minimal_of_le {value : Nat} (large : 16 ≤ value) :
    minimal value = minimal (value / 16) ++ [digit (value % 16)] := by
  rw [minimal, Nat.toDigits_of_base_le (by decide) large, List.map_append, List.map_singleton,
    toUInt8_digitChar (Nat.mod_lt _ (by decide))]
  rfl

/-- Exactly `width` digits of a number, the low ones if it has more. -/
def lowDigits : (width value : Nat) → Bytes
  | 0, _ => []
  | width + 1, value => lowDigits width (value / 16) ++ [digit (value % 16)]

private theorem lowDigits_zero (width : Nat) : lowDigits width 0 = List.replicate width 0x30 := by
  induction width with
  | zero => rfl
  | succ width ih => rw [lowDigits, Nat.zero_div, ih, List.replicate_succ']; rfl

theorem encode_eq_lowDigits (bytes : Bytes) :
    encode bytes = lowDigits (2 * bytes.length) (Bytes.toNat bytes) := by
  induction bytes using List.reverseRecOn with
  | nil => rfl
  | append_singleton bytes byte ih =>
      have low := byte.toNat_lt
      have split : encode (bytes ++ [byte]) = encode bytes ++ byteDigits byte := by
        simp [encode]
      have high : (Bytes.toNat bytes * 256 + byte.toNat) / 16 / 16 = Bytes.toNat bytes := by omega
      have second : (Bytes.toNat bytes * 256 + byte.toNat) / 16 % 16 = byte.toNat / 16 := by omega
      have last : (Bytes.toNat bytes * 256 + byte.toNat) % 16 = byte.toNat % 16 := by omega
      have width : 2 * (bytes ++ [byte]).length = 2 * bytes.length + 1 + 1 := by
        rw [List.length_append, List.length_singleton]
        omega
      rw [split, ih, Bytes.toNat_append_singleton, width, lowDigits, lowDigits, high, second, last,
        List.append_assoc]
      rfl

theorem padded_eq_lowDigits {width value : Nat} (wide : 0 < width) (fits : value < 16 ^ width) :
    padded width value = lowDigits width value := by
  induction width generalizing value with
  | zero => omega
  | succ width ih =>
      by_cases small : value < 16
      · rw [lowDigits, Nat.div_eq_of_lt small, Nat.mod_eq_of_lt small, lowDigits_zero, padded,
          minimal_of_lt small]
        rfl
      · rw [Nat.pow_succ] at fits
        have stillWide : 0 < width := by
          apply Nat.pos_of_ne_zero
          rintro rfl
          omega
        have shorter := ih stillWide (by omega : value / 16 < 16 ^ width)
        rw [lowDigits, ← shorter, padded, padded, minimal_of_le (by omega)]
        simp [Nat.add_sub_add_right]

theorem encode_eq_padded {bytes : Bytes} (held : 0 < bytes.length) :
    encode bytes = padded (2 * bytes.length) (Bytes.toNat bytes) := by
  have fits : Bytes.toNat bytes < 16 ^ (2 * bytes.length) := by
    rw [Nat.pow_mul]
    exact Bytes.toNat_lt bytes
  rw [padded_eq_lowDigits (by omega) fits, encode_eq_lowDigits]

end Hex

theorem Word.hex_eq_marked_padded (word : Word) :
    word.hex = Hex.marked (Hex.padded 64 word.toNat) := by
  have length : word.bytes.toList.length = 32 := word.bytes.length_toList
  have held : 0 < word.bytes.toList.length := by omega
  have digits := Hex.encode_eq_padded held
  rw [length] at digits
  rw [Word.hex, FixedBytes.hex, digits]
  rfl

end OperandStack
