import OperandStack.Command

/-!
# Command line

Hands the arguments to `Command.run` and writes what it returns.
-/

set_option autoImplicit false

def main (arguments : List String) : IO UInt32 := do
  let output := OperandStack.Command.run (arguments.map fun text => text.toUTF8.toList)
  let stdout ← IO.getStdout
  let stderr ← IO.getStderr
  stdout.write ⟨output.stdout.toArray⟩
  stdout.flush
  stderr.write ⟨output.stderr.toArray⟩
  stderr.flush
  return UInt32.ofNat output.code
