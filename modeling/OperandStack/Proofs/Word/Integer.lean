import Mathlib.Data.Nat.Digits.Defs
import OperandStack.Proofs.Stack.Refusal
import OperandStack.Proofs.Word.Spelling

/-!
# Words are the integers below 2^256

Bytes denote a number in base 256. Fitting them to a width keeps that number modulo the capacity of
the width, and values of one width are determined by their numbers. So every way into a word and
every way out of it is a matter of numbers: bytes, unsigned numbers of 64 and 256 bits, and integers
of any size and sign.
-/

set_option autoImplicit false

namespace OperandStack

/-! ## Numbers of byte strings -/

namespace Bytes

/-- The number of a byte string in terms of the library's digits, which come lowest first. -/
theorem toNat_eq_ofDigits (bytes : Bytes) :
    toNat bytes = Nat.ofDigits 256 (bytes.reverse.map UInt8.toNat) := by
  induction bytes using List.reverseRecOn with
  | nil => rfl
  | append_singleton bytes byte ih =>
      rw [toNat_append_singleton, ih, List.reverse_append, List.reverse_singleton,
        List.singleton_append, List.map_cons, Nat.ofDigits_cons]
      omega

theorem toNat_rightmost (bytes : Bytes) (width : Nat) :
    toNat (bytes.drop (bytes.length - width)) = toNat bytes % 256 ^ width := by
  by_cases short : bytes.length ≤ width
  · have bounded : toNat bytes < 256 ^ width :=
      Nat.lt_of_lt_of_le (toNat_lt bytes) (Nat.pow_le_pow_right (by decide) short)
    rw [Nat.sub_eq_zero_of_le short, List.drop_zero, Nat.mod_eq_of_lt bounded]
  · have kept : (bytes.drop (bytes.length - width)).length = width := by
      rw [List.length_drop]
      omega
    have low := toNat_lt (bytes.drop (bytes.length - width))
    have split := toNat_append (bytes.take (bytes.length - width))
      (bytes.drop (bytes.length - width))
    rw [List.take_append_drop] at split
    rw [kept] at split low
    rw [split, Nat.mul_add_mod_self_right, Nat.mod_eq_of_lt low]

end Bytes

/-! ## Fixed widths -/

namespace FixedBytes

variable {width : Nat}

theorem toNat_ofBytes (width : Nat) (bytes : Bytes) :
    (ofBytes width bytes).toNat = Bytes.toNat bytes % 256 ^ width := by
  rw [← Bytes.toNat_rightmost, toNat, toList_ofBytes, Bytes.toNat_append,
    Bytes.toNat_replicate_zero, Nat.zero_mul, Nat.zero_add]

theorem eq_of_toNat_eq {left right : FixedBytes width} (same : left.toNat = right.toNat) :
    left = right := by
  apply FixedBytes.ext
  apply Bytes.eq_of_toNat_eq _ same
  rw [left.length_toList, right.length_toList]

end FixedBytes

theorem Hash.eq_of_toNat_eq {left right : Hash} (same : left.toNat = right.toNat) :
    left = right :=
  Hash.ext (FixedBytes.eq_of_toNat_eq same)

theorem Hash.toNat_ofBytes (bytes : Bytes) :
    (Hash.ofBytes bytes).toNat = Bytes.toNat bytes % 2 ^ 256 := by
  rw [Hash.toNat, Hash.bytes_ofBytes]
  exact FixedBytes.toNat_ofBytes hashLength bytes

theorem Address.eq_of_toNat_eq {left right : Address} (same : left.toNat = right.toNat) :
    left = right :=
  Address.ext (FixedBytes.eq_of_toNat_eq same)

theorem Address.toNat_ofBytes (bytes : Bytes) :
    (Address.ofBytes bytes).toNat = Bytes.toNat bytes % 2 ^ 160 := by
  rw [Address.toNat, Address.bytes_ofBytes]
  exact FixedBytes.toNat_ofBytes addressLength bytes

/-! ## Words -/

namespace Word

theorem toNat_hash (word : Word) : word.hash.toNat = word.toNat := rfl

theorem toNat_address (word : Word) : word.address.toNat = word.toNat % 2 ^ 160 := by
  have low := Bytes.toNat_rightmost word.toList addressLength
  have length : word.toList.length = wordLength := word.bytes.length_toList
  rw [length] at low
  rw [address, Address.toNat_ofBytes, low]
  exact Nat.mod_mod _ _

theorem toNat_ofBytes_eq_mod (bytes : Bytes) :
    (ofBytes bytes).toNat = Bytes.toNat bytes % 2 ^ 256 :=
  FixedBytes.toNat_ofBytes wordLength bytes

theorem ofUInt256_toUInt256 (word : Word) : ofUInt256 word.toUInt256 = word := by
  apply eq_of_toNat_eq
  rw [toNat_ofUInt256, toNat_toUInt256]

theorem toUInt256_ofUInt256 (value : UInt256) : (ofUInt256 value).toUInt256 = value := by
  apply BitVec.eq_of_toNat_eq
  rw [toNat_toUInt256, toNat_ofUInt256]

theorem ofInt_eq_ok_iff {value : Int} {word : Word} :
    ofInt value = .ok word ↔ (word.toNat : Int) = value := by
  have bound := word.toNat_lt
  rw [Stack.ofInt_eq_ite]
  by_cases negative : value < 0
  · simp only [negative, ↓reduceIte, reduceCtorEq, false_iff]
    omega
  · by_cases wide : 2 ^ 256 ≤ value
    · simp only [negative, wide, ↓reduceIte, reduceCtorEq, false_iff]
      omega
    · have number : (ofUInt256 (BitVec.ofNat 256 value.toNat)).toNat = value.toNat := by
        rw [toNat_ofUInt256, BitVec.toNat_ofNat, Nat.mod_eq_of_lt (by omega)]
      simp only [negative, wide, ↓reduceIte, Except.ok.injEq]
      constructor
      · rintro rfl
        omega
      · intro same
        apply eq_of_toNat_eq
        omega

theorem exists_toNat_eq_iff (number : Nat) :
    (∃ word : Word, word.toNat = number) ↔ number < 2 ^ 256 := by
  constructor
  · rintro ⟨word, rfl⟩
    exact word.toNat_lt
  · intro bounded
    refine ⟨ofUInt256 (BitVec.ofNat 256 number), ?_⟩
    rw [toNat_ofUInt256, BitVec.toNat_ofNat, Nat.mod_eq_of_lt bounded]

theorem exists_ofInt_eq_ok_iff (value : Int) :
    (∃ word, ofInt value = .ok word) ↔ 0 ≤ value ∧ value < 2 ^ 256 := by
  simp only [ofInt_eq_ok_iff]
  constructor
  · rintro ⟨word, rfl⟩
    have bound := word.toNat_lt
    omega
  · rintro ⟨notNegative, bounded⟩
    obtain ⟨word, number⟩ := (exists_toNat_eq_iff value.toNat).mpr (by omega)
    exact ⟨word, by omega⟩

/-- Words and the numbers below 2^256 are the same thing. Bytes give the word of their number modulo
2^256, a 256-bit number and its word give each other back, and so do a word and its bytes. A 64-bit
number keeps its value. An integer is taken exactly if it is in range, with its value, and any other
is refused as an overflow; so the number of a word gives the word back. -/
theorem integers_below_capacity :
    (∀ number, (∃ word : Word, word.toNat = number) ↔ number < 2 ^ 256) ∧
    (∀ bytes : Bytes, (ofBytes bytes).toNat =
      Nat.ofDigits 256 (bytes.reverse.map UInt8.toNat) % 2 ^ 256) ∧
    (∀ word : Word, word.toUInt256.toNat = word.toNat ∧ ofBytes word.toList = word) ∧
    (∀ value : UInt256, (ofOptionalUInt256 (some value)).toUInt256 = value) ∧
    (∀ word : Word, ofOptionalUInt256 (some word.toUInt256) = word) ∧
    (∀ value : UInt64, (ofUInt64 value).toNat = value.toNat) ∧
    (∀ value : Int,
      ((∃ word, ofOptionalInt (some value) = .ok word) ↔ 0 ≤ value ∧ value < 2 ^ 256) ∧
      (∀ word, ofOptionalInt (some value) = .ok word → (word.toNat : Int) = value) ∧
      (¬(0 ≤ value ∧ value < 2 ^ 256) →
        ∃ error, ofOptionalInt (some value) = .error error ∧ error.condition = .wordOverflow)) ∧
    (∀ word : Word, ofOptionalInt (some word.toNat) = .ok word) := by
  refine ⟨exists_toNat_eq_iff, ?_, ?_, toUInt256_ofUInt256, ofUInt256_toUInt256, toNat_ofUInt64,
    ?_, ?_⟩
  · intro bytes
    rw [toNat_ofBytes_eq_mod, Bytes.toNat_eq_ofDigits]
  · intro word
    exact ⟨word.toNat_toUInt256, Word.ext (FixedBytes.ofBytes_toList word.bytes)⟩
  · intro value
    refine ⟨exists_ofInt_eq_ok_iff value, fun _ => ofInt_eq_ok_iff.mp, ?_⟩
    intro outside
    cases result : ofOptionalInt (some value) with
    | ok word => exact absurd ((exists_ofInt_eq_ok_iff value).mp ⟨word, result⟩) outside
    | error error => exact ⟨error, rfl, rfl⟩
  · intro word
    exact ofInt_eq_ok_iff.mpr rfl

end Word

end OperandStack
