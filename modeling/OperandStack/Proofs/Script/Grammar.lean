import OperandStack.Proofs.Numeral.Decimal
import OperandStack.Proofs.Script.Keyword
import OperandStack.Proofs.Script.Reading

/-!
# The grammar of script arguments

An argument is a name, and after a colon its operand. `Parts`, `Keyword.Spells` and `Denotes` give
the grammar without a word of the reader: where an argument is cut, which names a keyword has, and
which operands it takes. The reader accepts exactly the arguments of the grammar and makes of each
the record that the grammar gives it.
-/

set_option autoImplicit false

namespace OperandStack

/-! ## Name and operand -/

namespace Bytes

/-- A byte string is a name alone, or a name, a separator and an operand; the name holds no
separator, the operand may. -/
inductive Parts (separator : UInt8) : (whole name : Bytes) → (operand : Option Bytes) → Prop where
  | alone {name} : separator ∉ name → Parts separator name name none
  | operand {name operand} :
      separator ∉ name → Parts separator (name ++ separator :: operand) name (some operand)

theorem Parts.cons {separator byte : UInt8} {whole name : Bytes} {operand : Option Bytes}
    (other : byte ≠ separator) (parts : Parts separator whole name operand) :
    Parts separator (byte :: whole) (byte :: name) operand := by
  have absent (found : separator ∈ byte :: name) : separator ∈ name := by
    rcases List.mem_cons.mp found with same | found
    · exact absurd same.symm other
    · exact found
  cases parts with
  | alone free => exact .alone fun found => free (absent found)
  | operand free => exact .operand fun found => free (absent found)

private theorem parts_cut (separator : UInt8) (whole : Bytes) :
    Parts separator whole (cut separator whole).1 (cut separator whole).2 := by
  induction whole with
  | nil => exact .alone List.not_mem_nil
  | cons byte rest ih =>
      rw [cut]
      split
      · next same =>
          subst same
          exact @Parts.operand byte [] rest List.not_mem_nil
      · next other => exact ih.cons other

theorem cut_of_not_mem {separator : UInt8} {name : Bytes} (free : separator ∉ name) :
    cut separator name = (name, none) := by
  induction name with
  | nil => rfl
  | cons byte rest ih =>
      have other : byte ≠ separator := fun same => free (same ▸ .head rest)
      rw [cut, if_neg other, ih fun found => free (.tail byte found)]

theorem cut_append {separator : UInt8} {name : Bytes} (free : separator ∉ name) (operand : Bytes) :
    cut separator (name ++ separator :: operand) = (name, some operand) := by
  induction name with
  | nil => rw [List.nil_append, cut, if_pos rfl]
  | cons byte rest ih =>
      have other : byte ≠ separator := fun same => free (same ▸ .head rest)
      rw [List.cons_append, cut, if_neg other, ih fun found => free (.tail byte found)]

theorem cut_eq_iff {separator : UInt8} {whole name : Bytes} {operand : Option Bytes} :
    cut separator whole = (name, operand) ↔ Parts separator whole name operand := by
  constructor
  · intro same
    have parts := parts_cut separator whole
    rw [same] at parts
    exact parts
  · intro parts
    cases parts with
    | alone free => exact cut_of_not_mem free
    | operand free => exact cut_append free _

end Bytes

namespace Script

open Bytes (Parts)
open Numeral (Decimal SignedDecimal)

/-! ## Instructions as records -/

/-- An instruction as a record with a place for every kind of operand; the places that its keyword
does not use are zero. -/
structure Fields where
  keyword : Keyword
  word : Word := .zero
  size : UInt64 := 0
  address : Address := .zero
  number : Int := 0
  source : Bytes

def Instruction.fields : Instruction → Fields
  | ⟨.push word, source⟩ => { keyword := .push, word, source }
  | ⟨.pushSize size, source⟩ => { keyword := .pushSize, size, source }
  | ⟨.pushAddress address, source⟩ => { keyword := .pushAddress, address, source }
  | ⟨.pop, source⟩ => { keyword := .pop, source }
  | ⟨.swap distance, source⟩ => { keyword := .swap, number := distance, source }
  | ⟨.peek position, source⟩ => { keyword := .peek, number := position, source }

/-- The operands that each keyword takes, and the record that comes of it. A missing operand counts
as empty, except that a pop must have none. -/
inductive Denotes (source : Bytes) : (operand : Option Bytes) → Fields → Prop where
  | push {operand word} : Word.parse (operand.getD []) = .ok word →
      Denotes source operand { keyword := .push, word, source }
  | pushSize {operand value} : Decimal (operand.getD []) value → value ≤ 2 ^ 64 - 1 →
      Denotes source operand { keyword := .pushSize, size := UInt64.ofNat value, source }
  | pushAddress {operand address} : Address.parse (operand.getD []) = .ok address →
      Denotes source operand { keyword := .pushAddress, address, source }
  | pop : Denotes source none { keyword := .pop, source }
  | swap {operand distance} : SignedDecimal (operand.getD []) distance →
      -2 ^ 63 ≤ distance → distance ≤ 2 ^ 63 - 1 →
      Denotes source operand { keyword := .swap, number := distance, source }
  | peek {operand position} : SignedDecimal (operand.getD []) position →
      -2 ^ 63 ≤ position → position ≤ 2 ^ 63 - 1 →
      Denotes source operand { keyword := .peek, number := position, source }

/-! ## Operands -/

section

variable {α β ε φ : Type}

theorem map_eq_ok_iff {result : Except ε α} {change : α → β} {value : β} :
    result.map change = .ok value ↔ ∃ before, result = .ok before ∧ change before = value := by
  cases result <;> simp [Except.map]

theorem mapError_eq_ok_iff {result : Except ε α} {change : ε → φ} {value : α} :
    result.mapError change = .ok value ↔ result = .ok value := by
  cases result with
  | error error => exact ⟨nofun, nofun⟩
  | ok before =>
      show (Except.ok before : Except φ α) = .ok value ↔ _
      simp only [Except.ok.injEq]

end

theorem readSigned_eq_ok_iff {operand : Bytes} {value : Int} :
    readSigned operand = .ok value ↔
      SignedDecimal operand value ∧ -2 ^ 63 ≤ value ∧ value ≤ 2 ^ 63 - 1 := by
  rw [readSigned, mapError_eq_ok_iff, Numeral.readSigned_eq_ok_iff]

private theorem readOperation_fields_iff {keyword : Keyword} {operand : Option Bytes}
    {source : Bytes} {fields : Fields} :
    (∃ operation, readOperation keyword operand = .ok operation ∧
        Instruction.fields ⟨operation, source⟩ = fields) ↔
      fields.keyword = keyword ∧ Denotes source operand fields := by
  constructor
  · rintro ⟨operation, accepted, rfl⟩
    cases keyword with
    | push =>
        obtain ⟨word, parsed, rfl⟩ := map_eq_ok_iff.mp accepted
        exact ⟨rfl, .push (mapError_eq_ok_iff.mp parsed)⟩
    | pushSize =>
        obtain ⟨size, parsed, rfl⟩ := map_eq_ok_iff.mp accepted
        obtain ⟨value, decimal, fits, rfl⟩ :=
          Numeral.readUnsigned_eq_ok_iff.mp (mapError_eq_ok_iff.mp parsed)
        exact ⟨rfl, .pushSize decimal fits⟩
    | pushAddress =>
        obtain ⟨address, parsed, rfl⟩ := map_eq_ok_iff.mp accepted
        exact ⟨rfl, .pushAddress (mapError_eq_ok_iff.mp parsed)⟩
    | pop =>
        cases operand with
        | none =>
            cases accepted
            exact ⟨rfl, .pop⟩
        | some text => cases accepted
    | swap =>
        obtain ⟨distance, parsed, rfl⟩ := map_eq_ok_iff.mp accepted
        obtain ⟨decimal, low, high⟩ := readSigned_eq_ok_iff.mp parsed
        exact ⟨rfl, .swap decimal low high⟩
    | peek =>
        obtain ⟨position, parsed, rfl⟩ := map_eq_ok_iff.mp accepted
        obtain ⟨decimal, low, high⟩ := readSigned_eq_ok_iff.mp parsed
        exact ⟨rfl, .peek decimal low high⟩
  · rintro ⟨rfl, denotes⟩
    cases denotes with
    | push parsed =>
        exact ⟨_, map_eq_ok_iff.mpr ⟨_, mapError_eq_ok_iff.mpr parsed, rfl⟩, rfl⟩
    | pushSize decimal fits =>
        have parsed := Numeral.readUnsigned_eq_ok_iff.mpr ⟨_, decimal, fits, rfl⟩
        exact ⟨_, map_eq_ok_iff.mpr ⟨_, mapError_eq_ok_iff.mpr parsed, rfl⟩, rfl⟩
    | pushAddress parsed =>
        exact ⟨_, map_eq_ok_iff.mpr ⟨_, mapError_eq_ok_iff.mpr parsed, rfl⟩, rfl⟩
    | pop => exact ⟨_, rfl, rfl⟩
    | swap decimal low high =>
        exact ⟨_, map_eq_ok_iff.mpr ⟨_, readSigned_eq_ok_iff.mpr ⟨decimal, low, high⟩, rfl⟩, rfl⟩
    | peek decimal low high =>
        exact ⟨_, map_eq_ok_iff.mpr ⟨_, readSigned_eq_ok_iff.mpr ⟨decimal, low, high⟩, rfl⟩, rfl⟩

/-! ## Arguments -/

theorem readInstruction_eq_ok_iff {argument : Bytes} {instruction : Instruction} :
    readInstruction argument = .ok instruction ↔
      ∃ name operand keyword operation, Parts colon argument name operand ∧
        Keyword.Spells keyword.spelling name ∧ readOperation keyword operand = .ok operation ∧
          instruction = ⟨operation, argument⟩ := by
  unfold readInstruction
  constructor
  · intro accepted
    dsimp only at accepted
    split at accepted
    · cases accepted
    · next keyword named =>
        split at accepted
        · cases accepted
        · next operation read =>
            cases accepted
            exact ⟨_, _, keyword, operation, Bytes.parts_cut colon argument,
              Keyword.ofName?_eq_some_iff.mp named, read, rfl⟩
  · rintro ⟨name, operand, keyword, operation, parts, spelled, read, rfl⟩
    simp only [Bytes.cut_eq_iff.mpr parts, Keyword.ofName?_eq_some_iff.mpr spelled, read]

theorem readInstruction_fields_iff {argument : Bytes} {fields : Fields} :
    (readInstruction argument).map Instruction.fields = .ok fields ↔
      ∃ name operand, Parts colon argument name operand ∧
        Keyword.Spells fields.keyword.spelling name ∧ Denotes argument operand fields := by
  rw [map_eq_ok_iff]
  constructor
  · rintro ⟨instruction, accepted, shown⟩
    obtain ⟨name, operand, keyword, operation, parts, spelled, read, rfl⟩ :=
      readInstruction_eq_ok_iff.mp accepted
    obtain ⟨rfl, denotes⟩ := readOperation_fields_iff.mp ⟨operation, read, shown⟩
    exact ⟨name, operand, parts, spelled, denotes⟩
  · rintro ⟨name, operand, parts, spelled, denotes⟩
    obtain ⟨operation, read, shown⟩ := readOperation_fields_iff.mpr ⟨rfl, denotes⟩
    exact ⟨_, readInstruction_eq_ok_iff.mpr
      ⟨name, operand, fields.keyword, operation, parts, spelled, read, rfl⟩, shown⟩

private theorem readInstruction_of_no_text {argument name : Bytes} {operand : Option Bytes}
    (parts : Parts colon argument name operand)
    (noText : ∀ text : List Char, name ≠ text.flatMap String.utf8EncodeChar) :
    readInstruction argument = .error ⟨argument, .unknownOperation⟩ := by
  have unknown : Keyword.ofName? name = none := by
    cases named : Keyword.ofName? name with
    | none => rfl
    | some keyword =>
        have spelled := Keyword.ofName?_eq_some_iff.mp named
        obtain ⟨text, same⟩ := spelled.exists_text keyword.spelling_small
        exact absurd same (noText text)
  unfold readInstruction
  simp only [Bytes.cut_eq_iff.mpr parts, unknown]

/-- Arguments are read exactly by the grammar, and a name that is no UTF-8 text is unknown. A script
is read exactly if all its arguments are, and then argument by argument; else the first bad argument
gives the error. -/
theorem read_exactly_by_grammar :
    (∀ argument fields,
      (readInstruction argument).map Instruction.fields = .ok fields ↔
        ∃ name operand, Parts colon argument name operand ∧
          Keyword.Spells fields.keyword.spelling name ∧ Denotes argument operand fields) ∧
    (∀ argument name operand, Parts colon argument name operand →
      (∀ text : List Char, name ≠ text.flatMap String.utf8EncodeChar) →
        readInstruction argument = .error ⟨argument, .unknownOperation⟩) ∧
    (∀ arguments, (∃ script, read arguments = .ok script) ↔
      ∀ argument ∈ arguments, ∃ instruction, readInstruction argument = .ok instruction) ∧
    (∀ arguments script,
      read arguments = .ok script ↔ arguments.map readInstruction = script.map .ok) ∧
    (∀ arguments error, read arguments = .error error ↔
      ∃ before argument after, arguments = before ++ argument :: after ∧
        (∀ earlier ∈ before, ∃ instruction, readInstruction earlier = .ok instruction) ∧
          readInstruction argument = .error error) := by
  refine ⟨?_, ?_, ?_, ?_, ?_⟩
  · exact fun _ _ => readInstruction_fields_iff
  · exact fun _ _ _ => readInstruction_of_no_text
  · exact fun _ => exists_read_iff
  · exact fun _ _ => read_eq_ok_iff
  · exact fun _ _ => read_eq_error_iff

-- The Kelvin sign closes a `peek`, and a sign and leading zeros stand before the position.
example : (readInstruction (ascii "PEe" ++ [0xe2, 0x84, 0xaa] ++ ascii ":-007")).map
      Instruction.fields =
    .ok { keyword := .peek, number := -7,
          source := ascii "PEe" ++ [0xe2, 0x84, 0xaa] ++ ascii ":-007" } := by
  cbv

end Script

end OperandStack
