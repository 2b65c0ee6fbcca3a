import OperandStack.Numeral
import OperandStack.Script.Operation

/-!
# Reading a script

The first colon of an argument ends the keyword; what follows is the operand, and each keyword has
its own kind of operand. A script is refused as a whole at its first bad argument.
-/

set_option autoImplicit false

namespace OperandStack.Script

inductive OperandError where
  | word (error : Word.HexError)
  | address (error : Address.ParseError)
  | number (error : Numeral.Error)
  | unexpectedOperand
  | unknownOperation
  deriving DecidableEq

def OperandError.message : OperandError → Bytes
  | .word error => error.message
  | .address error => error.message
  | .number error => error.message
  | .unexpectedOperand => ascii "unexpected operand"
  | .unknownOperation => ascii "unknown operation"

structure ReadingError where
  argument : Bytes
  cause : OperandError
  deriving DecidableEq

def ReadingError.message (error : ReadingError) : Bytes :=
  ascii "op " ++ Text.Quoted.quote error.argument ++ ascii ": " ++ error.cause.message

def colon : UInt8 := 0x3a

def readSigned (operand : Bytes) : Except OperandError Int :=
  (Numeral.readSigned operand).mapError fun fault => .number ⟨.signed, operand, fault⟩

/-- Reads the operation of a keyword. A missing operand counts as empty, except that a pop must not
have any. -/
def readOperation (keyword : Keyword) (operand : Option Bytes) : Except OperandError Operation :=
  let text := operand.getD []
  match keyword with
  | .push => ((Word.parse text).mapError .word).map .push
  | .pushSize =>
      ((Numeral.readUnsigned text).mapError fun fault =>
        .number ⟨.unsigned, text, fault⟩).map .pushSize
  | .pushAddress => ((Address.parse text).mapError .address).map .pushAddress
  | .pop => if operand.isSome then .error .unexpectedOperand else .ok .pop
  | .swap => (readSigned text).map .swap
  | .peek => (readSigned text).map .peek

def readInstruction (argument : Bytes) : Except ReadingError Instruction :=
  let (name, operand) := Bytes.cut colon argument
  match Keyword.ofName? name with
  | none => .error ⟨argument, .unknownOperation⟩
  | some keyword =>
      match readOperation keyword operand with
      | .error cause => .error ⟨argument, cause⟩
      | .ok operation => .ok ⟨operation, argument⟩

/-- Reads all arguments in order and stops at the first bad one. -/
def read : List Bytes → Except ReadingError (List Instruction)
  | [] => .ok []
  | argument :: rest =>
      match readInstruction argument with
      | .error error => .error error
      | .ok instruction =>
          match read rest with
          | .error error => .error error
          | .ok instructions => .ok (instruction :: instructions)

end OperandStack.Script
