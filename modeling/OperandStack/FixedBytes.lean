import OperandStack.Hex

/-!
# Byte strings of a fixed width

Words, digests and account addresses are byte strings whose width is part of their type. Bytes of
any length are fitted to a width by one rule: short input is completed with zeros on the left, and
long input keeps its rightmost bytes. A new value is fitted by writing over zeros, and a value that
is already there by clearing it first where the input does not reach.
-/

set_option autoImplicit false

namespace OperandStack

/-- Exactly `width` bytes, most significant first. -/
@[ext]
structure FixedBytes (width : Nat) where
  toList : Bytes
  length_toList : toList.length = width

namespace FixedBytes

instance {width : Nat} : DecidableEq (FixedBytes width) := fun left right =>
  decidable_of_iff (left.toList = right.toList) FixedBytes.ext_iff.symm

def zero (width : Nat) : FixedBytes width :=
  ⟨List.replicate width 0, List.length_replicate⟩

instance {width : Nat} : Inhabited (FixedBytes width) := ⟨zero width⟩

def clearFirst {width : Nat} (current : FixedBytes width) (count : Nat) : FixedBytes width where
  toList := (current.toList.take count).map (fun _ => 0) ++ current.toList.drop count
  length_toList := by simp [current.length_toList]; omega

/-- Writes bytes over those that stand from a position on. Input that has no room is left out, and
what stands behind the input stays. -/
def writeAt {width : Nat} (current : FixedBytes width) (position : Nat) (bytes : Bytes) :
    FixedBytes width where
  toList := current.toList.take position ++
    (bytes.take (width - position) ++ current.toList.drop (position + bytes.length))
  length_toList := by simp [current.length_toList]; omega

def overwriteEnd {width : Nat} (current : FixedBytes width) (bytes : Bytes) : FixedBytes width :=
  let kept := bytes.drop (bytes.length - width)
  current.writeAt (width - kept.length) kept

/-- The rightmost `width` bytes of the input, completed with zeros on the left. -/
def ofBytes (width : Nat) (bytes : Bytes) : FixedBytes width :=
  (zero width).overwriteEnd bytes

/-- Sets a value in place: the kept input goes to the right end, and the bytes left of it are
cleared before. -/
def setBytes {width : Nat} (current : FixedBytes width) (bytes : Bytes) : FixedBytes width :=
  let kept := bytes.drop (bytes.length - width)
  (current.clearFirst (width - kept.length)).overwriteEnd bytes

def toNat {width : Nat} (value : FixedBytes width) : Nat :=
  Bytes.toNat value.toList

def ofNat (width value : Nat) : FixedBytes width :=
  ⟨Bytes.bigEndian width value, Bytes.length_bigEndian width value⟩

def isZero {width : Nat} (value : FixedBytes width) : Bool :=
  value = zero width

def hex {width : Nat} (value : FixedBytes width) : Bytes :=
  Hex.marked (Hex.encode value.toList)

/-! ## Fitting -/

theorem sub_length_kept (width : Nat) (bytes : Bytes) :
    width - (bytes.drop (bytes.length - width)).length = width - bytes.length := by
  rw [List.length_drop]
  omega

theorem toList_overwriteEnd {width : Nat} (current : FixedBytes width) (bytes : Bytes) :
    (current.overwriteEnd bytes).toList =
      current.toList.take (width - bytes.length) ++ bytes.drop (bytes.length - width) := by
  have whole : (bytes.drop (bytes.length - width)).length ≤ width - (width - bytes.length) := by
    rw [List.length_drop]
    omega
  -- The kept input reaches the right end, so that nothing of the value stands behind it.
  have covered : current.toList.length ≤
      width - bytes.length + (bytes.drop (bytes.length - width)).length := by
    rw [List.length_drop, current.length_toList]
    omega
  simp only [overwriteEnd, writeAt, sub_length_kept, List.take_of_length_le whole,
    List.drop_of_length_le covered, List.append_nil]

theorem toList_ofBytes (width : Nat) (bytes : Bytes) :
    (ofBytes width bytes).toList =
      List.replicate (width - bytes.length) 0 ++ bytes.drop (bytes.length - width) := by
  rw [ofBytes, toList_overwriteEnd, zero, List.take_replicate, Nat.min_eq_left (Nat.sub_le ..)]

theorem ofBytes_toList {width : Nat} (value : FixedBytes width) :
    ofBytes width value.toList = value := by
  ext1
  simp [toList_ofBytes, value.length_toList]

/-- Input written over a value is fitted exactly if nothing but zeros stood left of it: a new value
needs no clearing, and any other does. -/
theorem overwriteEnd_eq_ofBytes_iff {width : Nat} (current : FixedBytes width) (bytes : Bytes) :
    current.overwriteEnd bytes = ofBytes width bytes ↔
      ∀ byte ∈ current.toList.take (width - bytes.length), byte = 0 := by
  have length : (current.toList.take (width - bytes.length)).length = width - bytes.length := by
    rw [List.length_take, current.length_toList]
    omega
  rw [FixedBytes.ext_iff, toList_overwriteEnd, toList_ofBytes, List.append_left_inj,
    List.eq_replicate_iff, and_iff_right length]

example : ((ofBytes 3 [0xff, 0xff, 0xff]).overwriteEnd [0x01]).toList = [0xff, 0xff, 0x01] := rfl

theorem take_clearFirst {width count : Nat} (current : FixedBytes width) (within : count ≤ width) :
    (current.clearFirst count).toList.take count = List.replicate count 0 := by
  simp only [clearFirst, List.map_const', List.length_take, current.length_toList,
    Nat.min_eq_left within]
  exact List.take_left' List.length_replicate

/-- The value before is forgotten: setting is fitting. -/
@[simp]
theorem setBytes_eq_ofBytes {width : Nat} (current : FixedBytes width) (bytes : Bytes) :
    current.setBytes bytes = ofBytes width bytes := by
  rw [setBytes, sub_length_kept, overwriteEnd_eq_ofBytes_iff,
    take_clearFirst current (Nat.sub_le ..)]
  intro byte cleared
  exact List.eq_of_mem_replicate cleared

end FixedBytes

end OperandStack
