import OperandStack.Bytes

/-!
# Attributes of log records

A call brings a list of values that is read from the left: a text and the value after it make an
attribute, and an attribute that is ready-made counts by itself. What cannot be read so becomes an
attribute under a key of its own, and nothing is refused.
-/

set_option autoImplicit false

namespace OperandStack.Log

/-- What a call brings. A value of a kind that has no constructor of its own comes with the JSON
text that stands for it, and so does a ready-made attribute, which may stand behind a key. -/
inductive Value where
  | text (bytes : Bytes)
  | int (value : Int)
  | bool (value : Bool)
  | null
  | other (json : Bytes)
  | entry (key : Bytes) (value : Value) (json : Bytes)
  deriving DecidableEq, Repr

structure Attribute where
  key : Bytes
  value : Value
  deriving DecidableEq, Repr

namespace Attribute

def missingKey : Bytes :=
  ascii "!BADKEY"

/-- Reads attributes from the left. A last lone text, and a value of another kind where a key is
expected, go under the key for values that have none. -/
def read : List Value → List Attribute
  | [] => []
  | [.text lone] => [⟨missingKey, .text lone⟩]
  | .text key :: value :: rest => ⟨key, value⟩ :: read rest
  | .entry key value _ :: rest => ⟨key, value⟩ :: read rest
  | value :: rest => ⟨missingKey, value⟩ :: read rest

/-- An attribute with neither key nor value is not written. -/
def isEmpty (entry : Attribute) : Bool :=
  entry.key.isEmpty && entry.value = .null

end Attribute

end OperandStack.Log
