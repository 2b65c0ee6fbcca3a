import OperandStack.Word

/-!
# Texts of words

A word is written with all its 64 digits (`hex`) or with as few as possible (`text`), and formatted
under the verbs of a format string. It is read from at most 64 digits with an optional mark.
-/

set_option autoImplicit false

namespace OperandStack.Word

/-! ## Writing -/

def hex (word : Word) : Bytes :=
  word.bytes.hex

def minimalDigits (word : Word) : Bytes :=
  Hex.minimal word.toUInt256.toNat

def text (word : Word) : Bytes :=
  Hex.marked word.minimalDigits

/-- A word under a format verb: `x` and `X` give the shortest digits, with the mark if the alternate
form is asked for; `v` and `s` give the text; any other verb is reported as unfit for a word. -/
def format (word : Word) (alternate : Bool) (verb : Char) : Bytes :=
  if verb = 'x' ∨ verb = 'X' then
    let digits := if verb = 'X' then word.minimalDigits.map Hex.upperDigit else word.minimalDigits
    if alternate then Hex.marked digits else digits
  else if verb = 'v' ∨ verb = 's' then word.text
  else
    ascii "%!" ++ OperandStack.Text.Utf8.encode verb.toNat ++ ascii "(vm.Word=" ++ word.text ++
      ascii ")"

/-! ## Reading -/

inductive HexError where
  /-- No digit, or more than 64 bytes, after the optional mark. -/
  | badLength (digits : Bytes)
  | badDigits (cause : Hex.DecodeError)
  deriving DecidableEq, Repr

/-- Reads 1 to 64 digits after an optional mark. -/
def parse (text : Bytes) : Except HexError Word :=
  let digits := Hex.dropMark text
  if digits.length = 0 ∨ digits.length > 2 * wordLength then .error (.badLength digits)
  else
    let decoded := Hex.decode (Hex.evened digits)
    match decoded.fault with
    | some cause => .error (.badDigits cause)
    | none => .ok (ofBytes decoded.bytes)

end OperandStack.Word
