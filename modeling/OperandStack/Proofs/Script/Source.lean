import OperandStack.Proofs.Hex.Readers
import OperandStack.Proofs.Script.DepthProfile
import OperandStack.Proofs.Script.Grammar

/-!
# The texts of accepted arguments

A refused operation is reported together with its argument, as that was written. The report stays
on one line all the same: only letters, digits, signs and a colon make an argument that is accepted,
so no control byte of it can get that far.
-/

set_option autoImplicit false

namespace OperandStack

/-! ## Texts without control bytes -/

namespace Bytes

/-- No byte of a text is a control character of ASCII. -/
def Graphic (text : Bytes) : Prop :=
  ∀ byte ∈ text, 0x20 ≤ byte ∧ byte ≠ 0x7f

-- The text is gone through, not the whole range of bytes.
instance (text : Bytes) : Decidable (Graphic text) :=
  List.decidableBAll _ text

theorem Graphic.append {left right : Bytes} (graphicLeft : Graphic left)
    (graphicRight : Graphic right) : Graphic (left ++ right) :=
  List.forall_mem_append.mpr ⟨graphicLeft, graphicRight⟩

theorem Graphic.cons {byte : UInt8} {text : Bytes} (shown : 0x20 ≤ byte ∧ byte ≠ 0x7f)
    (graphic : Graphic text) : Graphic (byte :: text) :=
  List.forall_mem_cons.mpr ⟨shown, graphic⟩

theorem Graphic.newline_not_mem {text : Bytes} (graphic : Graphic text) : newline ∉ text := by
  intro member
  exact absurd (graphic newline member) (by decide)

private theorem graphic_of_between {low high : UInt8} {text : Bytes} (between : ∀ byte ∈ text,
    low ≤ byte ∧ byte ≤ high) (shown : 0x20 ≤ low) (below : high < 0x7f) : Graphic text := by
  intro byte member
  obtain ⟨least, greatest⟩ := between byte member
  simp only [UInt8.le_iff_toNat_le, UInt8.lt_iff_toNat_lt, UInt8.reduceToNat, ne_eq,
    ← UInt8.toNat_inj] at *
  omega

theorem graphic_decimal (value : Nat) : Graphic (decimal value) := by
  refine @graphic_of_between 0x30 0x39 _ ?_ (by decide) (by decide)
  intro byte member
  obtain ⟨character, found, rfl⟩ := List.mem_map.mp member
  have digit := Nat.isDigit_of_mem_toDigits (by decide) (by decide) found
  simp only [Char.isDigit, Bool.and_eq_true, decide_eq_true_eq, UInt32.le_iff_toNat_le] at digit
  change 0x30 ≤ character.toNat ∧ character.toNat ≤ 0x39 at digit
  have code : character.toNat.toUInt8.toNat = character.toNat := Nat.mod_eq_of_lt (by omega)
  rw [UInt8.le_iff_toNat_le, UInt8.le_iff_toNat_le, code]
  exact digit

theorem graphic_decimalInt (value : Int) : Graphic (decimalInt value) := by
  cases value with
  | ofNat number => exact graphic_decimal number
  | negSucc number => exact .cons (by decide) (graphic_decimal _)

end Bytes

open Bytes (Graphic)

/-! ## Operands and names -/

namespace Hex

theorem IsDigit.mem {byte : UInt8} (digit : IsDigit byte) :
    byte ∈ ascii "0123456789abcdef" ++ ascii "0123456789ABCDEF" := by
  obtain ⟨value, found | found⟩ := digit
  · exact List.mem_append_left _ (List.mem_of_getElem? found)
  · exact List.mem_append_right _ (List.mem_of_getElem? found)

theorem graphic_of_digits {digits : Bytes} (all : ∀ byte ∈ digits, IsDigit byte) :
    Graphic digits := by
  have shown : Graphic (ascii "0123456789abcdef" ++ ascii "0123456789ABCDEF") := by decide
  exact fun byte member => shown byte (all byte member).mem

theorem Unmarked.graphic {text digits : Bytes} (unmarked : Unmarked text digits)
    (graphic : Graphic digits) : Graphic text := by
  cases unmarked with
  | lower | upper => exact .cons (by decide) (.cons (by decide) graphic)
  | plain => exact graphic

theorem Denotes.graphic {text : Bytes} {number : Nat} (denoted : Denotes (dropMark text) number) :
    Graphic text :=
  (unmarked_dropMark text).graphic (graphic_of_digits denoted.digits)

end Hex

theorem Numeral.Decimal.graphic {text : Bytes} {value : Nat} (decimal : Decimal text value) :
    Graphic text :=
  Bytes.graphic_of_between decimal.digits (by decide) (by decide)

theorem Numeral.SignedDecimal.graphic {text : Bytes} {value : Int}
    (signed : SignedDecimal text value) : Graphic text := by
  cases signed with
  | plain decimal => exact decimal.graphic
  | plus decimal | minus decimal => exact .cons (by decide) decimal.graphic

theorem Condition.graphic_message (condition : Condition) : Graphic condition.message := by
  cases condition <;> decide

private theorem StackOp.graphic_name (op : StackOp) : Graphic op.name := by
  cases op with
  | push | pop | swap => decide
  | unnamed code =>
      exact .append (.append (by decide) (Bytes.graphic_decimal code.toNat)) (by decide)

/-- Only a cause without a name could bring a control byte into a report. -/
theorem StackError.graphic_message {error : StackError} {condition : Condition}
    (caused : error.cause = .condition condition) : Graphic error.message := by
  have reason : Graphic error.cause.message := by
    rw [caused]
    exact condition.graphic_message
  have place : Graphic
      (ascii " (op=" ++ error.op.name ++ ascii " depth=" ++ Bytes.decimalInt error.depth) :=
    .append (.append (.append (by decide) error.op.graphic_name) (by decide))
      (Bytes.graphic_decimalInt error.depth)
  have distance : Graphic
      (if error.op = .swap then ascii " distance=" ++ Bytes.decimalInt error.distance else []) := by
    split
    · exact .append (by decide) (Bytes.graphic_decimalInt error.distance)
    · exact List.forall_mem_nil _
  exact .append (.append (.append reason place) distance) (by decide)

namespace Script

private theorem Keyword.graphic_of_mem_forms {letter : UInt8} {form : Bytes}
    (member : form ∈ forms letter)
    (small : 0x61 ≤ letter.toNat ∧ letter.toNat ≤ 0x7a) : Graphic form := by
  rcases List.mem_cons.mp member with rfl | member
  · refine @Bytes.graphic_of_between 0x61 0x7a _ ?_ (by decide) (by decide)
    simpa [UInt8.le_iff_toNat_le] using small
  rcases List.mem_cons.mp member with rfl | member
  · refine @Bytes.graphic_of_between 0x41 0x5a _ ?_ (by decide) (by decide)
    simp only [List.mem_singleton, forall_eq, UInt8.le_iff_toNat_le, toNat_capital small,
      UInt8.reduceToNat]
    omega
  -- The letters outside ASCII have no byte of ASCII at all.
  · split at member
    · obtain rfl := List.mem_singleton.mp member
      decide
    · split at member
      · obtain rfl := List.mem_singleton.mp member
        decide
      · cases member

theorem Keyword.Spells.graphic {letters name : Bytes} (spelled : Spells letters name)
    (small : ∀ letter ∈ letters, 0x61 ≤ letter.toNat ∧ letter.toNat ≤ 0x7a) : Graphic name := by
  induction spelled with
  | nil => exact List.forall_mem_nil _
  | cons member _ ih =>
      obtain ⟨smallLetter, smallLetters⟩ := List.forall_mem_cons.mp small
      exact (graphic_of_mem_forms member smallLetter).append (ih smallLetters)

theorem Denotes.graphic {source : Bytes} {operand : Option Bytes} {fields : Fields}
    (denotes : Denotes source operand fields) : Graphic (operand.getD []) := by
  cases denotes with
  | push parsed => exact (Word.parse_eq_ok_iff.mp parsed).2.2.graphic
  | pushSize decimal => exact decimal.graphic
  | pushAddress parsed =>
      have reading := Address.reading_parse (operand.getD [])
      rw [parsed] at reading
      cases reading with
      | number _ denoted => exact denoted.graphic
  | pop => exact List.forall_mem_nil _
  | swap signed | peek signed => exact signed.graphic

/-! ## Instructions and their faults -/

theorem graphic_of_readInstruction {argument : Bytes} {instruction : Instruction}
    (accepted : readInstruction argument = .ok instruction) : Graphic argument := by
  obtain ⟨name, operand, parts, spelled, denotes⟩ :=
    readInstruction_fields_iff.mp (map_eq_ok_iff.mpr ⟨instruction, accepted, rfl⟩)
  have graphicName := spelled.graphic (Keyword.spelling_small _)
  cases parts with
  | alone => exact graphicName
  | operand => exact graphicName.append (.cons (by decide) denotes.graphic)

theorem graphic_source_of_read {arguments : List Bytes} {script : List Instruction}
    (accepted : read arguments = .ok script) {instruction : Instruction}
    (member : instruction ∈ script) : Graphic instruction.source := by
  have mapped : Except.ok instruction ∈ arguments.map readInstruction := by
    rw [read_eq_ok_iff.mp accepted]
    exact List.mem_map_of_mem member
  obtain ⟨argument, _, read⟩ := List.mem_map.mp mapped
  obtain ⟨_, _, _, _, _, _, _, rfl⟩ := readInstruction_eq_ok_iff.mp read
  exact graphic_of_readInstruction read

private theorem graphic_message_of_fault? {operation : Operation} {depth : Int} {fault : StackError}
    (faulty : operation.fault? depth = some fault) : Graphic fault.message := by
  cases operation with
  | push | pushSize | pushAddress | pop | swap distance =>
      simp only [Operation.fault?, Option.ite_none_left_eq_some, Option.some.injEq] at faulty
      obtain ⟨_, rfl⟩ := faulty
      exact StackError.graphic_message rfl
  | peek => cases faulty

/-- The report of a first fault shows the argument unquoted, and has no control byte. -/
theorem FirstFault.graphic_message {start : Int} {arguments : List Bytes}
    {script : List Instruction} {index : Nat} {instruction : Instruction} {fault : StackError}
    (first : FirstFault start script index instruction fault)
    (accepted : read arguments = .ok script) :
    Graphic (ExecutionError.message ⟨index, instruction.source, .stack fault⟩) := by
  have source := graphic_source_of_read accepted (List.mem_of_getElem? first.found)
  have step := (show Graphic (ascii "step ") by decide).append (Bytes.graphic_decimal index)
  have place := ((step.append (by decide : Graphic (ascii " ("))).append source).append
    (by decide : Graphic (ascii "): "))
  exact place.append (graphic_message_of_fault? first.faulty)

end Script

end OperandStack
