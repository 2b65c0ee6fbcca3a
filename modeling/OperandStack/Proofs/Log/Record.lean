import OperandStack.Log.Line
import OperandStack.Proofs.Text.Encoding

/-!
# The text of a record

A record is one JSON object: the severity and the message come first, and the attributes are its
further members, each with its key and its value. Texts of plain characters stand in it as they are.
-/

set_option autoImplicit false

namespace OperandStack.Log

/-! ### Plain texts -/

/-- A printable byte that stands for itself inside a JSON string. -/
def PlainByte (byte : UInt8) : Prop :=
  0x20 ≤ byte ∧ byte < 0x7f ∧ byte ≠ 0x22 ∧ byte ≠ 0x5c

instance (byte : UInt8) : Decidable (PlainByte byte) :=
  inferInstanceAs (Decidable (_ ∧ _))

def Plain (text : Bytes) : Prop :=
  ∀ byte ∈ text, PlainByte byte

instance (text : Bytes) : Decidable (Plain text) :=
  List.decidableBAll _ text

private theorem escape_of_plain {byte : UInt8} (plain : PlainByte byte) :
    escape (.scalar byte.toNat [byte]) = [byte] := by
  simp only [PlainByte, ne_eq, UInt8.le_iff_toNat_le, UInt8.lt_iff_toNat_lt, ← UInt8.toNat_inj,
    UInt8.reduceToNat] at plain
  simp only [escape]
  rw [if_neg (by omega), if_neg (by omega), if_neg (by omega), if_neg (by omega),
    if_neg (by omega)]

theorem jsonText_of_plain {text : Bytes} (plain : Plain text) :
    jsonText text = 0x22 :: text ++ [0x22] := by
  have unescaped : (Text.Utf8.pieces text).flatMap escape = text := by
    induction text with
    | nil => simp [Text.Utf8.pieces]
    | cons byte rest ih =>
        obtain ⟨plainByte, plainRest⟩ := List.forall_mem_cons.mp plain
        have below : byte.toNat < 0x80 :=
          Nat.lt_trans (UInt8.lt_iff_toNat_lt.mp plainByte.2.1) (by decide)
        rw [Text.Utf8.pieces, Text.Utf8.leading_one below, List.flatMap_cons,
          escape_of_plain plainByte, ih plainRest, List.singleton_append]
  rw [jsonText, unescaped]

theorem json_of_plain {key : Bytes} (plain : Plain key) (named : key ≠ []) (value : Value) :
    Attribute.json ⟨key, value⟩ = 0x2c :: 0x22 :: key ++ 0x22 :: 0x3a :: value.json := by
  have shown : Attribute.isEmpty ⟨key, value⟩ = false := by
    cases key with
    | nil => exact absurd rfl named
    | cons first rest => rfl
  rw [Attribute.json, shown, jsonText_of_plain plain]
  simp

/-! ### Members and lines -/

theorem Attribute.json_eq_member (key : Bytes) (value : Value) :
    Attribute.json ⟨key, value⟩ =
      if key = [] ∧ value = .null then []
      else ascii "," ++ jsonText key ++ ascii ":" ++ value.json := by
  simp only [Attribute.json, Attribute.isEmpty, List.isEmpty_iff, Bool.and_eq_true,
    decide_eq_true_eq]
  split
  · rfl
  · exact (List.append_assoc (_ :: jsonText key) [0x3a] value.json).symm

theorem Severity.plain_name (severity : Severity) : Plain severity.name := by
  cases severity <;> decide

theorem line_eq_object (severity : Severity) (message : Bytes) (attributes : List Attribute) :
    line severity message attributes =
      ascii "\x7b\"level\":\"" ++ severity.name ++ ascii "\",\"msg\":" ++ jsonText message ++
        attributes.flatMap Attribute.json ++ ascii "\x7d" := by
  have head : ascii "\x7b\"level\":" ++ jsonText severity.name ++ ascii ",\"msg\":" =
      ascii "\x7b\"level\":\"" ++ severity.name ++ ascii "\",\"msg\":" := by
    rw [jsonText_of_plain severity.plain_name]
    cases severity <;> rfl
  rw [line, head]

end OperandStack.Log
