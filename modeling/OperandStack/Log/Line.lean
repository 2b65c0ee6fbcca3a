import OperandStack.Hex
import OperandStack.Log.Attribute
import OperandStack.Log.Severity
import OperandStack.Text.Utf8

/-!
# Lines of a log

A record is one line: a JSON object with the severity, the message and the attributes in order.
Keys may repeat. A record carries no time stamp.
-/

set_option autoImplicit false

namespace OperandStack.Log

open OperandStack.Text (Piece)

/-- The spelling of one piece of a text inside a JSON string. In the place of a stray byte stands
the replacement character U+FFFD itself, so that a line is always valid UTF-8. Older writers spell
it as an escape, which is read as the same text. -/
def escape : Piece → Bytes
  | .stray _ => Text.Utf8.encode 0xfffd
  | .scalar code encoding =>
      if code = 0x22 ∨ code = 0x5c then 0x5c :: encoding
      else if code = 0x0a then ascii "\\n"
      else if code = 0x0d then ascii "\\r"
      else if code = 0x09 then ascii "\\t"
      else if code < 0x20 ∨ code = 0x2028 ∨ code = 0x2029 then ascii "\\u" ++ Hex.padded 4 code
      else encoding

def jsonText (text : Bytes) : Bytes :=
  0x22 :: (Text.Utf8.pieces text).flatMap escape ++ [0x22]

def Value.json : Value → Bytes
  | .text bytes => jsonText bytes
  | .int value => Bytes.decimalInt value
  | .bool true => ascii "true"
  | .bool false => ascii "false"
  | .null => ascii "null"
  | .other json => json
  | .entry _ _ json => json

/-- An attribute as a further member of an object; an empty one leaves nothing. -/
def Attribute.json (entry : Attribute) : Bytes :=
  if entry.isEmpty then []
  else 0x2c :: jsonText entry.key ++ 0x3a :: entry.value.json

def line (severity : Severity) (message : Bytes) (attributes : List Attribute) : Bytes :=
  ascii "\x7b\"level\":" ++ jsonText severity.name ++ ascii ",\"msg\":" ++ jsonText message ++
    attributes.flatMap Attribute.json ++ ascii "\x7d"

end OperandStack.Log
