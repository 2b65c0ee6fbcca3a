import OperandStack.Condition
import OperandStack.Word.Text

/-!
# Wording of refused words

Each refusal begins with the text of its condition and adds the detail that caused it.
-/

set_option autoImplicit false

namespace OperandStack.Word

def bitLength (value : Nat) : Nat :=
  if value = 0 then 0 else value.log2 + 1

def RangeError.condition (_ : RangeError) : Condition :=
  .wordOverflow

/-- The text of an integer's refusal: the value itself if negative, else its width in bits. -/
def RangeError.message (error : RangeError) : Bytes :=
  error.condition.message ++
    match error with
    | .negative value => ascii ": negative value " ++ Bytes.decimalInt value
    | .tooWide value => ascii ": " ++ Bytes.decimal (bitLength value) ++ ascii "-bit value"

def HexError.condition (_ : HexError) : Condition :=
  .invalidWordHex

/-- The text of a text's refusal: the quoted digits if there are too few or too many of them, else
the fault in decoding them. -/
def HexError.message (error : HexError) : Bytes :=
  error.condition.message ++ ascii ": " ++
    match error with
    | .badLength digits => OperandStack.Text.Quoted.quote digits
    | .badDigits cause => cause.message

end OperandStack.Word
