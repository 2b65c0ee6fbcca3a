import Mathlib.Data.List.DropRight
import OperandStack.Proofs.Word.Integer

/-!
# Fitting to a width

A digest or an address that is set again and again holds its last input alone, fitted to its width:
no byte that it held before comes through, wherever the inputs begin. Fitting to a width and then to
a smaller one is fitting to the smaller one at once, so that the digest, the word and the address of
one input agree.
-/

set_option autoImplicit false

namespace OperandStack

namespace FixedBytes

theorem toList_ofBytes_eq_leftpad (width : Nat) (bytes : Bytes) :
    (ofBytes width bytes).toList = (bytes.rtake width).leftpad width 0 := by
  rw [toList_ofBytes, List.leftpad, List.rtake, sub_length_kept]

theorem ofBytes_toList_ofBytes {narrow wide : Nat} (narrower : narrow ≤ wide) (bytes : Bytes) :
    ofBytes narrow (ofBytes wide bytes).toList = ofBytes narrow bytes := by
  -- In numbers, a residue is taken of a residue.
  have divides : 256 ^ narrow ∣ 256 ^ wide := Nat.pow_dvd_pow 256 narrower
  have inner : Bytes.toNat (ofBytes wide bytes).toList = Bytes.toNat bytes % 256 ^ wide :=
    toNat_ofBytes wide bytes
  apply eq_of_toNat_eq
  rw [toNat_ofBytes, toNat_ofBytes, inner, Nat.mod_mod_of_dvd _ divides]

end FixedBytes

private theorem Address.ofBytes_toList_ofBytes {wide : Nat} (wider : addressLength ≤ wide)
    (bytes : Bytes) : Address.ofBytes (FixedBytes.ofBytes wide bytes).toList = .ofBytes bytes := by
  apply Address.ext
  rw [bytes_ofBytes, bytes_ofBytes, FixedBytes.ofBytes_toList_ofBytes wider]

namespace Word

theorem hash_ofBytes (bytes : Bytes) : (ofBytes bytes).hash = .ofBytes bytes :=
  Hash.ext (Hash.bytes_ofBytes bytes).symm

theorem address_eq_ofBytes_toList (word : Word) : word.address = .ofBytes word.toList := by
  apply Address.eq_of_toNat_eq
  rw [toNat_address, Address.toNat_ofBytes]
  rfl

end Word

/-- Whatever a digest or an address holds at the start, after any inputs it is the one of the last
input: the input's last 32 or 20 bytes with zeros on the left. The word of an input holds the bytes
of its digest, and the address of an input is the same whether it is made from all of it, from the
digest or from the word. -/
theorem setters_forget_and_agree :
    (∀ (start : Hash) (earlier : List Bytes) (last : Bytes),
      (earlier ++ [last]).foldl Hash.setBytes start = Hash.ofBytes last) ∧
    (∀ (start : Address) (earlier : List Bytes) (last : Bytes),
      (earlier ++ [last]).foldl Address.setBytes start = Address.ofBytes last) ∧
    (∀ bytes : Bytes,
      (Hash.ofBytes bytes).toList = (bytes.rtake 32).leftpad 32 0 ∧
      (Address.ofBytes bytes).toList = (bytes.rtake 20).leftpad 20 0 ∧
      (Word.ofBytes bytes).hash = Hash.ofBytes bytes ∧
      Address.ofBytes (Hash.ofBytes bytes).toList = Address.ofBytes bytes ∧
      (Word.ofBytes bytes).address = Address.ofBytes bytes) := by
  refine ⟨?_, ?_, ?_⟩
  · intro start earlier last
    rw [List.foldl_concat, Hash.setBytes_eq_ofBytes]
  · intro start earlier last
    rw [List.foldl_concat, Address.setBytes_eq_ofBytes]
  · intro bytes
    refine ⟨?_, ?_, Word.hash_ofBytes bytes, ?_, ?_⟩
    · rw [Hash.toList, Hash.bytes_ofBytes]
      exact FixedBytes.toList_ofBytes_eq_leftpad hashLength bytes
    · rw [Address.toList, Address.bytes_ofBytes]
      exact FixedBytes.toList_ofBytes_eq_leftpad addressLength bytes
    · rw [Hash.toList, Hash.bytes_ofBytes]
      exact Address.ofBytes_toList_ofBytes (by decide) bytes
    · rw [Word.address_eq_ofBytes_toList]
      exact Address.ofBytes_toList_ofBytes (by decide) bytes

end OperandStack
