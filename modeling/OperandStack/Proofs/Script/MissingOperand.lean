import OperandStack.Proofs.Script.Grammar

/-!
# Operands that are left out

Whether an argument has a colon counts for a pop alone. For every other keyword a missing operand is
read as an empty one, and so it depends on the reader of the operand what becomes of it. The readers
of words and numbers refuse an operand without a digit; the reader of addresses takes it for the
zero address. This module says exactly which arguments without an operand are accepted.
-/

set_option autoImplicit false

namespace OperandStack.Script

open Bytes (Parts)

def blankOperands : List Bytes :=
  [[], ascii "0x", ascii "0X"]

private theorem readers_of_blank {text : Bytes} (blank : text ∈ blankOperands) :
    Word.parse text = .error (.badLength []) ∧ Numeral.readUnsigned text = .error .malformed ∧
      Numeral.readSigned text = .error .malformed ∧ Address.parse text = .ok .zero := by
  have all : ∀ text ∈ blankOperands, Word.parse text = .error (.badLength []) ∧
      Numeral.readUnsigned text = .error .malformed ∧
      Numeral.readSigned text = .error .malformed ∧ Address.parse text = .ok .zero := by
    decide
  exact all text blank

private theorem readOperation_pushAddress_of_blank {operand : Option Bytes}
    (blank : operand.getD [] ∈ blankOperands) :
    readOperation .pushAddress operand = .ok (.pushAddress .zero) := by
  obtain ⟨_, _, _, address⟩ := readers_of_blank blank
  simp only [readOperation, address]
  rfl

private theorem readOperation_of_blank {operand : Option Bytes}
    (blank : operand.getD [] ∈ blankOperands) (keyword : Keyword) :
    (∃ operation, readOperation keyword operand = .ok operation) ↔
      keyword = .pushAddress ∨ keyword = .pop ∧ operand = none := by
  obtain ⟨word, unsigned, signed, _⟩ := readers_of_blank blank
  cases keyword with
  | push => simp [readOperation, word, Except.map, Except.mapError]
  | pushSize => simp [readOperation, unsigned, Except.map, Except.mapError]
  | pushAddress => simp [readOperation_pushAddress_of_blank blank]
  | pop =>
      cases operand with
      | none => simp [readOperation]
      | some text => simp [readOperation]
  | swap | peek => simp [readOperation, readSigned, signed, Except.map, Except.mapError]

private theorem readInstruction_eq_ok_of_named {argument name : Bytes} {operand : Option Bytes}
    {keyword : Keyword} (parts : Parts colon argument name operand)
    (spelled : Keyword.Spells keyword.spelling name) (instruction : Instruction) :
    readInstruction argument = .ok instruction ↔
      ∃ operation, readOperation keyword operand = .ok operation ∧
        instruction = ⟨operation, argument⟩ := by
  unfold readInstruction
  simp only [Bytes.cut_eq_iff.mpr parts, Keyword.ofName?_eq_some_iff.mpr spelled]
  cases readOperation keyword operand with
  | error cause => simp
  | ok operation => simp [eq_comm]

private theorem exists_readInstruction_of_blank {argument name : Bytes} {operand : Option Bytes}
    {keyword : Keyword} (parts : Parts colon argument name operand)
    (spelled : Keyword.Spells keyword.spelling name)
    (blank : operand.getD [] ∈ blankOperands) :
    (∃ instruction, readInstruction argument = .ok instruction) ↔
      keyword = .pushAddress ∨ keyword = .pop ∧ operand = none := by
  rw [← readOperation_of_blank blank keyword]
  constructor
  · intro accepted
    obtain ⟨instruction, read⟩ := accepted
    obtain ⟨operation, operationRead, _⟩ :=
      (readInstruction_eq_ok_of_named parts spelled instruction).mp read
    exact ⟨operation, operationRead⟩
  · intro accepted
    obtain ⟨operation, operationRead⟩ := accepted
    exact ⟨_, (readInstruction_eq_ok_of_named parts spelled _).mpr ⟨operation, operationRead, rfl⟩⟩

private theorem exists_readInstruction_of_bare {argument : Bytes} (bare : colon ∉ argument) :
    (∃ instruction, readInstruction argument = .ok instruction) ↔
      Keyword.Spells Keyword.pop.spelling argument ∨
        Keyword.Spells Keyword.pushAddress.spelling argument := by
  have blank : (none : Option Bytes).getD [] ∈ blankOperands := by decide
  constructor
  · intro accepted
    obtain ⟨instruction, read⟩ := accepted
    obtain ⟨name, operand, keyword, operation, parts, spelled, _⟩ :=
      readInstruction_eq_ok_iff.mp read
    cases parts with
    | operand => exact absurd (by simp) bare
    | alone free =>
        rcases (exists_readInstruction_of_blank (.alone bare) spelled blank).mp ⟨_, read⟩ with
          rfl | ⟨rfl, _⟩
        · exact .inr spelled
        · exact .inl spelled
  · intro named
    rcases named with pop | address
    · exact (exists_readInstruction_of_blank (.alone bare) pop blank).mpr (.inr ⟨rfl, rfl⟩)
    · exact (exists_readInstruction_of_blank (.alone bare) address blank).mpr (.inl rfl)

/-- An argument names a keyword and gives it an operand without a digit, or none. -/
def LeavesOut (keyword : Keyword) (argument : Bytes) : Prop :=
  ∃ name operand, Parts colon argument name operand ∧
    Keyword.Spells keyword.spelling name ∧ operand.getD [] ∈ blankOperands

theorem LeavesOut.accepted_iff {keyword : Keyword} {argument : Bytes}
    (leaves : LeavesOut keyword argument) (operates : keyword ≠ .pop) :
    (∃ instruction, readInstruction argument = .ok instruction) ↔ keyword = .pushAddress := by
  obtain ⟨name, operand, parts, spelled, blank⟩ := leaves
  rw [exists_readInstruction_of_blank parts spelled blank]
  constructor
  · intro exempt
    rcases exempt with address | ⟨pop, _⟩
    · exact address
    · exact absurd pop operates
  · exact .inl

theorem LeavesOut.readInstruction_address {argument : Bytes}
    (leaves : LeavesOut .pushAddress argument) :
    readInstruction argument = .ok ⟨.pushAddress .zero, argument⟩ := by
  obtain ⟨name, operand, parts, spelled, blank⟩ := leaves
  have read := readOperation_pushAddress_of_blank blank
  exact (readInstruction_eq_ok_of_named parts spelled _).mpr ⟨_, read, rfl⟩

/-- An operand that is missing gets its argument refused, except for the push of an address: that
reads as the push of the zero address. -/
theorem operand_left_out_only_for_address (argument : Bytes) :
    (((colon ∉ argument → (∃ instruction, readInstruction argument = .ok instruction) →
          Keyword.Spells Keyword.pop.spelling argument) ∧
        (∀ keyword, keyword ≠ .pop → LeavesOut keyword argument →
          ¬∃ instruction, readInstruction argument = .ok instruction)) ↔
      ¬LeavesOut .pushAddress argument) ∧
    (LeavesOut .pushAddress argument →
      readInstruction argument = .ok ⟨.pushAddress .zero, argument⟩) := by
  refine ⟨⟨?_, ?_⟩, LeavesOut.readInstruction_address⟩
  · intro refused leaves
    exact refused.2 .pushAddress (by decide) leaves ⟨_, leaves.readInstruction_address⟩
  · intro given
    constructor
    · intro bare accepted
      rcases (exists_readInstruction_of_bare bare).mp accepted with pop | address
      · exact pop
      · exact absurd ⟨argument, none, .alone bare, address, by decide⟩ given
    · intro keyword operates leaves accepted
      obtain rfl := (leaves.accepted_iff operates).mp accepted
      exact given leaves

theorem mark_alone_left_out :
    LeavesOut .pushAddress (ascii "PushAddr:0X") ∧
      readInstruction (ascii "PushAddr:0X") = .ok ⟨.pushAddress .zero, ascii "PushAddr:0X"⟩ := by
  have leaves : LeavesOut .pushAddress (ascii "PushAddr:0X") :=
    ⟨ascii "PushAddr", some (ascii "0X"), Bytes.cut_eq_iff.mp (by decide +kernel),
      Keyword.ofName?_eq_some_iff.mp (by decide +kernel), by decide⟩
  exact ⟨leaves, (operand_left_out_only_for_address _).2 leaves⟩

/-- The bare name of the push of an address is accepted, though it names no pop, and so is the name
with an empty operand. -/
theorem address_left_out_accepted :
    (colon ∉ ascii "pushaddr" ∧ ¬Keyword.Spells Keyword.pop.spelling (ascii "pushaddr") ∧
      readInstruction (ascii "pushaddr") = .ok ⟨.pushAddress .zero, ascii "pushaddr"⟩) ∧
    readInstruction (ascii "pushaddr:") = .ok ⟨.pushAddress .zero, ascii "pushaddr:"⟩ := by
  have noPop : Keyword.ofName? (ascii "pushaddr") ≠ some .pop := by decide +kernel
  refine ⟨⟨by decide, ?_, by decide +kernel⟩, by decide +kernel⟩
  exact fun spelled => noPop (Keyword.ofName?_eq_some_iff.mpr spelled)

end OperandStack.Script
