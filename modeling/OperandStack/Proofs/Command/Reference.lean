import OperandStack.Command
import OperandStack.Proofs.Script.Reading
import OperandStack.Proofs.Stack.Meaning
import OperandStack.Proofs.Word.Value

/-!
# The command against a reference interpreter

The reference keeps a plain list of numbers, the top first, and writes text. It knows no stacks,
buffers, tracers or flags. The command ends with the reference's code and writes the reference's
text, whatever its flags are.
-/

set_option autoImplicit false

namespace OperandStack.Reference

open OperandStack.Script (Operation Instruction)

/-! ## The reference interpreter -/

/-- At most 1024 numbers below 2^256, the top first. -/
structure Pile where
  numbers : List Nat
  length_le : numbers.length ≤ 1024
  number_lt : ∀ number ∈ numbers, number < 2 ^ 256

structure Transcript where
  code : Nat
  stdout : String
  deriving DecidableEq, Repr

def exchangeFirst (numbers : List Nat) (distance : Nat) : List Nat :=
  match numbers[0]?, numbers[distance]? with
  | some first, some other => (numbers.set 0 other).set distance first
  | _, _ => numbers

private theorem length_exchangeFirst (numbers : List Nat) (distance : Nat) :
    (exchangeFirst numbers distance).length = numbers.length := by
  unfold exchangeFirst
  split
  · simp only [List.length_set]
  · rfl

private theorem mem_of_mem_exchangeFirst {numbers : List Nat} {distance number : Nat}
    (member : number ∈ exchangeFirst numbers distance) : number ∈ numbers := by
  unfold exchangeFirst at member
  split at member
  · next first other foundFirst foundOther =>
      rcases List.mem_or_eq_of_mem_set member with earlier | rfl
      · rcases List.mem_or_eq_of_mem_set earlier with original | rfl
        · exact original
        · exact List.mem_of_getElem? foundOther
      · exact List.mem_of_getElem? foundFirst
  · exact member

def shortHex (number : Nat) : String :=
  "0x" ++ String.ofList (Nat.toDigits 16 number)

def fullHex (number : Nat) : String :=
  let digits := Nat.toDigits 16 number
  "0x" ++ String.ofList (List.replicate (64 - digits.length) '0' ++ digits)

def listing : List Nat → String
  | [] => ""
  | number :: rest => fullHex number ++ "\n" ++ listing rest

namespace Pile

def empty : Pile :=
  ⟨[], Nat.zero_le _, fun _ member => by cases member⟩

def push? (pile : Pile) (number : Nat) (fits : number < 2 ^ 256) : Option Pile :=
  if room : pile.numbers.length < 1024 then
    some
      { numbers := number :: pile.numbers
        length_le := room
        number_lt := List.forall_mem_cons.mpr ⟨fits, pile.number_lt⟩ }
  else none

def pop? : Pile → Option (Nat × Pile)
  | ⟨[], _, _⟩ => none
  | ⟨top :: rest, length_le, number_lt⟩ =>
      some (top, ⟨rest, Nat.le_of_succ_le length_le, (List.forall_mem_cons.mp number_lt).2⟩)

def swap? (pile : Pile) (distance : Int) : Option Pile :=
  if 0 ≤ distance ∧ distance < pile.numbers.length then
    some
      { numbers := exchangeFirst pile.numbers distance.toNat
        length_le := by rw [length_exchangeFirst]; exact pile.length_le
        number_lt := fun number member => pile.number_lt number (mem_of_mem_exchangeFirst member) }
  else none

def peek? (pile : Pile) (position : Int) : Option Nat :=
  if 0 ≤ position then pile.numbers.reverse[position.toNat]? else none

/-- The pile after an operation and the text that it writes; none if it is a fault. -/
def step (pile : Pile) : Operation → Option (Pile × String)
  | .push word => (pile.push? word.toNat word.toNat_lt).map (·, "")
  | .pushSize size =>
      (pile.push? size.toNat (Nat.lt_trans size.toNat_lt (by decide))).map (·, "")
  | .pushAddress address =>
      (pile.push? address.toNat (Nat.lt_trans address.toNat_lt (by decide))).map (·, "")
  | .pop => pile.pop?.map fun (top, rest) => (rest, "pop " ++ shortHex top ++ "\n")
  | .swap distance => (pile.swap? distance).map (·, "")
  | .peek position =>
      let found :=
        match pile.peek? position with
        | some number => shortHex number
        | none => "absent"
      some (pile, "peek " ++ toString position ++ " " ++ found ++ "\n")

/-- Goes through operations in order. A fault ends with code 1 and what was written before it; the
end of the operations gives code 0 and the remaining numbers. -/
def run (pile : Pile) : List Operation → Transcript
  | [] => ⟨0, listing pile.numbers⟩
  | operation :: rest =>
      match pile.step operation with
      | none => ⟨1, ""⟩
      | some (next, text) =>
          let later := next.run rest
          ⟨later.code, text ++ later.stdout⟩

end Pile

/-! ## Texts -/

theorem ascii_append (left right : String) : ascii (left ++ right) = ascii left ++ ascii right := by
  simp only [ascii, String.toList_append, List.map_append]

private theorem ascii_toString (value : Int) : ascii (toString value) = Bytes.decimalInt value := by
  cases value with
  | ofNat magnitude =>
      show ascii (Nat.repr magnitude) = Bytes.decimal magnitude
      rw [ascii, Nat.toList_repr]
      rfl
  | negSucc magnitude =>
      show ascii ("-" ++ Nat.repr (magnitude + 1)) = 0x2d :: Bytes.decimal (magnitude + 1)
      rw [ascii_append, ascii, ascii, Nat.toList_repr]
      rfl

theorem ascii_shortHex (word : Word) : ascii (shortHex word.toNat) = word.format true 'x' := by
  rw [shortHex, ascii_append, ascii, ascii, String.toList_ofList]
  simp [Word.format, Word.minimalDigits, Hex.marked, Hex.minimal]

private theorem ascii_fullHex (word : Word) : ascii (fullHex word.toNat) = word.hex := by
  rw [Word.hex_eq_marked_padded, fullHex, ascii_append, ascii, ascii, String.toList_ofList]
  simp [Hex.marked, Hex.padded, Hex.minimal]

private theorem ascii_listing (words : List Word) :
    ascii (listing (words.map Word.toNat)) = words.flatMap fun word => Bytes.line word.hex := by
  induction words with
  | nil => rfl
  | cons word rest ih =>
      rw [List.map_cons, listing, ascii_append, ascii_append, ascii_fullHex, ih]
      rfl

/-! ## Simulation -/

/-- The pile holds the numbers of the words, in the opposite order. -/
def Pile.Shows (pile : Pile) (items : List Word) : Prop :=
  pile.numbers = (items.map Word.toNat).reverse

namespace Pile

variable {Sink : Type} {pile : Pile} {items : List Word}

theorem Shows.length (shown : pile.Shows items) : pile.numbers.length = items.length := by
  rw [shown, List.length_reverse, List.length_map]

private theorem getElem?_exchangeFirst {numbers : List Nat} {distance : Nat}
    (near : distance < numbers.length) (position : Nat) :
    (exchangeFirst numbers distance)[position]? =
      if position = 0 then numbers[distance]?
      else if position = distance then numbers[0]?
      else numbers[position]? := by
  have firstInside : 0 < numbers.length := by omega
  simp only [exchangeFirst, List.getElem?_eq_getElem firstInside,
    List.getElem?_eq_getElem near, List.getElem?_set, List.length_set]
  by_cases atFirst : position = 0
  · subst position
    by_cases same : distance = 0
    · subst distance
      simp [firstInside]
    · simp [same, firstInside]
  · have notFirst : ¬0 = position := fun same => atFirst same.symm
    by_cases atOther : position = distance
    · subst position
      simp [atFirst, near]
    · have notOther : ¬distance = position := fun same => atOther same.symm
      simp [atFirst, atOther, notFirst, notOther]

private theorem getElem?_reverse_map_toNat {words : List Word} {place : Nat}
    (inside : place < words.length) :
    (words.map Word.toNat).reverse[place]? = words[words.length - 1 - place]?.map Word.toNat := by
  rw [List.getElem?_reverse (by simpa using inside), List.length_map, List.getElem?_map]

private theorem exchangeFirst_reverse_map {distance : Nat} (near : distance < items.length) :
    exchangeFirst (items.map Word.toNat).reverse distance =
      ((Stack.exchangeLast items distance).map Word.toNat).reverse := by
  apply List.ext_getElem?
  intro position
  rw [getElem?_exchangeFirst (by simpa using near)]
  by_cases inside : position < items.length
  · have insideExchanged : position < (Stack.exchangeLast items distance).length := by
      rwa [Stack.length_exchangeLast]
    rw [getElem?_reverse_map_toNat insideExchanged, Stack.length_exchangeLast,
      Stack.getElem?_exchangeLast near, getElem?_reverse_map_toNat inside,
      getElem?_reverse_map_toNat near, getElem?_reverse_map_toNat (by omega : 0 < items.length)]
    have atEnd : items.length - 1 - position = items.length - 1 ↔ position = 0 := by omega
    have atOther : items.length - 1 - position = items.length - 1 - distance ↔
        position = distance := by omega
    simp only [atEnd, atOther, Nat.sub_zero]
    split
    · rfl
    · split <;> rfl
  · have beyond : items.length ≤ position := by omega
    rw [if_neg (by omega), if_neg (by omega), List.getElem?_eq_none (by simpa using beyond),
      List.getElem?_eq_none (by simpa using beyond)]

/-- A step of the reference and the meaning of an operation go together: both are refused, or both
go on with the same text and the words are shown again. -/
inductive Agrees (operation : Operation) : Option (Pile × String) → Stack.Meaning → Prop where
  | fault {meaning : Stack.Meaning} {fault : StackError} :
      meaning.result = .error (.stack fault) → Agrees operation none meaning
  | next {meaning : Stack.Meaning} {next : Pile} {text : String} {reply : Stack.Reply} :
      meaning.result = .ok reply → operation.printed reply = ascii text →
      next.Shows meaning.items → Agrees operation (some (next, text)) meaning

private theorem push?_agrees (shown : pile.Shows items) {operation : Operation}
    (silent : operation.printed .done = []) {word : Word} {number : Nat} (fits : number < 2 ^ 256)
    (value : word.toNat = number) :
    Agrees operation ((pile.push? number fits).map (·, "")) (.push items word) := by
  unfold push? Stack.Meaning.push stackLimit
  by_cases room : items.length < 1024
  · rw [dif_pos (by rwa [shown.length]), if_pos room]
    refine .next rfl silent ?_
    simp only [Shows, List.map_append, List.map_singleton, List.reverse_append,
      List.reverse_singleton, List.singleton_append, value]
    rw [shown]
  · rw [dif_neg (by rwa [shown.length]), if_neg room]
    exact .fault rfl

private theorem pop?_agrees (shown : pile.Shows items) :
    Agrees .pop (pile.pop?.map fun (top, rest) => (rest, "pop " ++ shortHex top ++ "\n"))
      (.pop items .word) := by
  rcases pile with ⟨numbers, bounded, below⟩
  cases last : items.getLast? with
  | none =>
      obtain rfl : items = [] := List.getLast?_eq_none_iff.mp last
      obtain rfl : numbers = [] := shown
      exact .fault rfl
  | some word =>
      obtain ⟨lower, rfl⟩ := List.getLast?_eq_some_iff.mp last
      obtain rfl : numbers = word.toNat :: (lower.map Word.toNat).reverse := by
        simpa [Shows] using shown
      rw [Stack.Meaning.pop, last]
      refine .next rfl ?_ ?_
      · rw [ascii_append, ascii_append, ascii_shortHex]
        rfl
      · simp only [Shows, Stack.Meaning.answered, List.dropLast_concat]

private theorem swap?_agrees (shown : pile.Shows items) (distance : Int) :
    Agrees (.swap distance) ((pile.swap? distance).map (·, "")) (.swap items distance) := by
  unfold swap? Stack.Meaning.swap
  rw [shown.length]
  by_cases near : 0 ≤ distance ∧ distance < items.length
  · rw [if_pos near, if_pos near]
    refine .next rfl rfl ?_
    simp only [Shows, Stack.Meaning.answered]
    rw [shown, exchangeFirst_reverse_map (by omega)]
  · rw [if_neg near, if_neg near]
    exact .fault rfl

private theorem peek?_eq (shown : pile.Shows items) (position : Int) :
    pile.peek? position =
      (if position < 0 then none else items[position.toNat]?).map Word.toNat := by
  unfold peek?
  by_cases negative : position < 0
  · rw [if_pos negative, if_neg (by omega)]
    rfl
  · rw [if_neg negative, if_pos (by omega), shown, List.reverse_reverse, List.getElem?_map]

theorem step_agrees (shown : pile.Shows items) (operation : Operation) :
    Agrees operation (pile.step operation) (operation.toOp.meaning items) := by
  cases operation with
  | push word => exact push?_agrees shown rfl _ rfl
  | pushSize size => exact push?_agrees shown rfl _ (Word.toNat_ofUInt64 size)
  | pushAddress address => exact push?_agrees shown rfl _ (Word.toNat_ofAddress address)
  | pop => exact pop?_agrees shown
  | swap distance => exact swap?_agrees shown distance
  | peek position =>
      refine .next rfl ?_ shown
      rw [peek?_eq shown]
      cases (if position < 0 then none else items[position.toNat]?) with
      | none =>
          have absent : ascii " absent" = ascii " " ++ ascii "absent" := ascii_append " " "absent"
          simp only [Operation.printed, Option.map_none, ascii_append, ascii_toString, absent,
            Bytes.line, List.append_assoc]
          rfl
      | some word =>
          simp only [Operation.printed, Option.map_some, ascii_append, ascii_toString,
            ascii_shortHex]
          rfl

/-- A transcript tells how an execution ends: the code, and the text with the remaining words if no
operation was refused. -/
inductive Ends {Sink : Type} (execution : Script.Execution Sink) (transcript : Transcript) :
    Prop where
  | finished : execution.error = none → transcript.code = 0 →
      ascii transcript.stdout = execution.output ++
        execution.stack.snapshot.flatMap (fun word => Bytes.line word.hex) →
      Ends execution transcript
  | halted {error : Script.ExecutionError} {fault : StackError} :
      execution.error = some error → error.cause = .stack fault → transcript.code = 1 →
      ascii transcript.stdout = execution.output → Ends execution transcript

private theorem executeFrom_ends {Sink : Type} {pile : Pile} {stack : Stack Sink}
    (shown : pile.Shows stack.items) (step : Nat) (script : List Instruction) :
    Ends (Script.executeFrom step stack script) (pile.run (script.map (·.operation))) := by
  induction script generalizing pile stack step with
  | nil =>
      refine .finished rfl rfl ?_
      rw [List.map_nil, run, shown, ← List.map_reverse, ascii_listing]
      simp only [Script.executeFrom, Stack.snapshot_eq_reverse_items, List.nil_append]
  | cons instruction rest ih =>
      have realized := Stack.apply_realizes stack instruction.operation.toOp
      have agreed := step_agrees shown instruction.operation
      rw [List.map_cons, run, Script.executeFrom, realized.result]
      cases stepped : pile.step instruction.operation with
      | none =>
          rw [stepped] at agreed
          cases agreed with
          | fault refused =>
              rw [refused]
              exact .halted rfl rfl rfl rfl
      | some result =>
          rw [stepped] at agreed
          cases agreed with
          | next answered printed shownNext =>
              rw [← realized.items] at shownNext
              rw [answered]
              cases ih shownNext (step + 1) with
              | finished noError code written =>
                  refine .finished noError code ?_
                  simp only [ascii_append, written, printed, List.append_assoc]
              | halted failed cause code written =>
                  refine .halted failed cause code ?_
                  simp only [ascii_append, written, printed]

end Pile

/-! ## The command -/

open OperandStack.Command

private theorem execute_new_ends (settings : Settings) (script : List Instruction) :
    Pile.Ends (Script.execute (Stack.new [some settings.tracer]) script)
      (Pile.empty.run (script.map (·.operation))) := by
  have shown : Pile.empty.Shows (Stack.new [some settings.tracer]).items := by
    rw [Stack.items_new]
    rfl
  exact Pile.executeFrom_ends shown 0 script

theorem replay_eq_reference (settings : Settings) (script : List Instruction) :
    (replay settings script).code = (Pile.empty.run (script.map (·.operation))).code ∧
      (replay settings script).stdout =
        ascii (Pile.empty.run (script.map (·.operation))).stdout := by
  unfold replay
  cases execute_new_ends settings script with
  | finished noError code written =>
      simp only [noError, code, written, and_self]
  | halted failed cause code written =>
      simp only [failed, cause, code, written, and_self]

theorem run_of_read_error {arguments : List Bytes} {settings : Settings}
    {error : Script.ReadingError} (invoked : readInvocation arguments = .replay settings)
    (valid : settings.fault? = none) (refused : Script.read settings.operations = .error error) :
    Command.run arguments = ⟨2, [], Bytes.line (ascii "Error: " ++ error.message)⟩ := by
  simp only [Command.run, invoked, valid, refused]

theorem run_of_read_ok {arguments : List Bytes} {settings : Settings}
    {script : List Instruction} (invoked : readInvocation arguments = .replay settings)
    (valid : settings.fault? = none) (accepted : Script.read settings.operations = .ok script) :
    Command.run arguments = replay settings script := by
  simp only [Command.run, invoked, valid, accepted]

/-- On arguments that ask for a replay with valid settings, a refused operation anywhere ends the
command with code 2 before anything is executed. Without one, code and standard output are those of
the reference, and only a stack fault ends an execution. Both depend on the operations alone. -/
theorem run_eq_reference (arguments : List Bytes) (settings : Settings)
    (invoked : readInvocation arguments = .replay settings) (valid : settings.fault? = none) :
    ((∃ argument ∈ settings.operations, ∃ error, Script.readInstruction argument = .error error) →
        ∃ error : Script.ReadingError,
          Command.run arguments = ⟨2, [], Bytes.line (ascii "Error: " ++ error.message)⟩) ∧
      ((¬∃ argument ∈ settings.operations,
          ∃ error, Script.readInstruction argument = .error error) →
        ∃ script, settings.operations.map Script.readInstruction = script.map .ok ∧
          (Command.run arguments).code = (Pile.empty.run (script.map (·.operation))).code ∧
          (Command.run arguments).stdout =
            ascii (Pile.empty.run (script.map (·.operation))).stdout ∧
          ∀ error, (Script.execute (Stack.new [some settings.tracer]) script).error = some error →
            ∃ fault, error.cause = .stack fault) ∧
      (∀ (otherArguments : List Bytes) (otherSettings : Settings),
        readInvocation otherArguments = .replay otherSettings → otherSettings.fault? = none →
        otherSettings.operations = settings.operations →
          (Command.run otherArguments).code = (Command.run arguments).code ∧
            (Command.run otherArguments).stdout = (Command.run arguments).stdout) := by
  refine ⟨?_, ?_, ?_⟩
  · rintro ⟨argument, member, error, refused⟩
    obtain ⟨first, unread⟩ := Script.read_of_refused member refused
    exact ⟨first, run_of_read_error invoked valid unread⟩
  · intro accepted
    obtain ⟨script, readable⟩ := Script.read_of_not_refused accepted
    obtain ⟨code, stdout⟩ := replay_eq_reference settings script
    rw [run_of_read_ok invoked valid readable]
    refine ⟨script, Script.read_eq_ok_iff.mp readable, code, stdout, ?_⟩
    intro error failed
    cases execute_new_ends settings script with
    | finished noError => rw [noError] at failed; cases failed
    | halted halt cause =>
        rw [halt] at failed
        cases failed
        exact ⟨_, cause⟩
  · intro otherArguments otherSettings otherInvoked otherValid same
    cases readable : Script.read settings.operations with
    | error error =>
        rw [run_of_read_error invoked valid readable,
          run_of_read_error otherInvoked otherValid (same ▸ readable)]
        exact ⟨rfl, rfl⟩
    | ok script =>
        obtain ⟨code, stdout⟩ := replay_eq_reference settings script
        obtain ⟨otherCode, otherStdout⟩ := replay_eq_reference otherSettings script
        rw [run_of_read_ok invoked valid readable,
          run_of_read_ok otherInvoked otherValid (same ▸ readable)]
        exact ⟨otherCode.trans code.symm, otherStdout.trans stdout.symm⟩

def sampleOperations : List Bytes :=
  [ascii "push:0x2a", ascii "pushsize:7", ascii "pushaddr:0xff", ascii "swap:2", ascii "pop",
    ascii "peek:0", ascii "peek:9"]

def sampleScript : List Instruction :=
  [⟨.push (.ofUInt64 42), ascii "push:0x2a"⟩, ⟨.pushSize 7, ascii "pushsize:7"⟩,
    ⟨.pushAddress (.ofBytes [0xff]), ascii "pushaddr:0xff"⟩, ⟨.swap 2, ascii "swap:2"⟩,
    ⟨.pop, ascii "pop"⟩, ⟨.peek 0, ascii "peek:0"⟩, ⟨.peek 9, ascii "peek:9"⟩]

def sampleText : String :=
  "pop 0x2a\npeek 0 0xff\npeek 9 absent\n" ++
    "0x0000000000000000000000000000000000000000000000000000000000000007\n" ++
    "0x00000000000000000000000000000000000000000000000000000000000000ff\n"

theorem run_eq_reference_with_and_without_trace :
    let observed := [ascii "-trace", ascii "-metrics", ascii "-verbosity", ascii "5"]
    readInvocation sampleOperations = .replay ⟨3, false, false, sampleOperations⟩ ∧
      readInvocation (observed ++ sampleOperations) = .replay ⟨5, true, true, sampleOperations⟩ ∧
      (Command.run sampleOperations).code = 0 ∧
      (Command.run sampleOperations).stdout = ascii sampleText ∧
      (Command.run (observed ++ sampleOperations)).code = 0 ∧
      (Command.run (observed ++ sampleOperations)).stdout = ascii sampleText := by
  intro observed
  have plain : readInvocation sampleOperations = .replay ⟨3, false, false, sampleOperations⟩ := by
    decide +kernel
  have traced : readInvocation (observed ++ sampleOperations) =
      .replay ⟨5, true, true, sampleOperations⟩ := by
    decide +kernel
  have readable : Script.read sampleOperations = .ok sampleScript := by decide +kernel
  have reference : Pile.empty.run (sampleScript.map (·.operation)) = ⟨0, sampleText⟩ := by
    decide +kernel
  have accepted : ¬∃ argument ∈ sampleOperations,
      ∃ error, Script.readInstruction argument = .error error := by
    rintro ⟨argument, member, error, refused⟩
    obtain ⟨first, unread⟩ := Script.read_of_refused member refused
    rw [readable] at unread
    cases unread
  obtain ⟨_, runs, ignored⟩ := run_eq_reference _ _ plain (by decide)
  obtain ⟨script, same, code, stdout, _⟩ := runs accepted
  obtain rfl : sampleScript = script :=
    Except.ok.inj (readable.symm.trans (Script.read_eq_ok_iff.mpr same))
  obtain ⟨otherCode, otherStdout⟩ := ignored _ _ traced (by decide) rfl
  rw [reference] at code stdout
  exact ⟨plain, traced, code, stdout, otherCode.trans code, otherStdout.trans stdout⟩

end OperandStack.Reference
