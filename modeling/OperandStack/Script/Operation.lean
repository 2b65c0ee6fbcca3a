import OperandStack.Stack.Op
import OperandStack.Text.Utf8

/-!
# Operations of a script

A script is a list of operations, each written as a keyword with an operand. Keywords are read
without regard to case.
-/

set_option autoImplicit false

namespace OperandStack.Script

open OperandStack.Text (Piece)

inductive Keyword where
  | push
  | pushSize
  | pushAddress
  | pop
  | swap
  | peek
  deriving DecidableEq, Repr

namespace Keyword

def all : List Keyword :=
  [.push, .pushSize, .pushAddress, .pop, .swap, .peek]

def spelling : Keyword → Bytes
  | .push => ascii "push"
  | .pushSize => ascii "pushsize"
  | .pushAddress => ascii "pushaddr"
  | .pop => ascii "pop"
  | .swap => ascii "swap"
  | .peek => ascii "peek"

/-- The lower-case code point of a character, as far as it is an ASCII letter: besides the capital
letters these are the Kelvin sign and the dotted capital I. Other characters stay, since no keyword
holds one, and a stray byte is no character. -/
def lowerCode? : Piece → Option Nat
  | .stray _ => none
  | .scalar code _ =>
      if 0x41 ≤ code ∧ code ≤ 0x5a then some (code + 0x20)
      else if code = 0x212a then some 0x6b
      else if code = 0x0130 then some 0x69
      else some code

def spelledBy (keyword : Keyword) (name : Bytes) : Bool :=
  (Text.Utf8.pieces name).map lowerCode? = keyword.spelling.map fun letter => some letter.toNat

def ofName? (name : Bytes) : Option Keyword :=
  all.find? fun keyword => keyword.spelledBy name

end Keyword

inductive Operation where
  | push (word : Word)
  | pushSize (size : UInt64)
  | pushAddress (address : Address)
  | pop
  | swap (distance : Int)
  | peek (position : Int)
  deriving DecidableEq

/-- An operation with the text that it was read from. -/
structure Instruction where
  operation : Operation
  source : Bytes
  deriving DecidableEq

def Operation.toOp : Operation → Stack.Op
  | .push word => .push word
  | .pushSize size => .pushSize size
  | .pushAddress address => .pushAddress address
  | .pop => .pop
  | .swap distance => .swap distance
  | .peek position => .peek position

end OperandStack.Script
