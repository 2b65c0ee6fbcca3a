import OperandStack.Proofs.Command.Reference
import OperandStack.Proofs.Script.Source

/-!
# Replaying a snapshot

What the command prints at the end of a replay is a program for the same stack: the lines of the
snapshot from the last to the first, each behind `push:`, lead to exactly that snapshot. Writing and
reading of words meet here, as do the flags, the cut at the colon and the limit of the stack.
-/

set_option autoImplicit false

namespace OperandStack

/-! ## Lines of an output -/

namespace Bytes

def lines : Bytes → List Bytes
  | [] => []
  | byte :: rest =>
      if byte = newline then [] :: lines rest
      else
        match lines rest with
        | [] => [[byte]]
        | first :: others => (byte :: first) :: others

theorem lines_line_append {text : Bytes} (unbroken : newline ∉ text) (rest : Bytes) :
    lines (line text ++ rest) = text :: lines rest := by
  induction text with
  | nil => rfl
  | cons byte text ih =>
      have other : byte ≠ newline := fun same => unbroken (same ▸ .head text)
      have later := ih fun member => unbroken (.tail byte member)
      rw [line] at later ⊢
      rw [List.cons_append, List.cons_append, lines, if_neg other, later]

theorem lines_flatMap_line_append {texts : List Bytes}
    (unbroken : ∀ text ∈ texts, newline ∉ text) (rest : Bytes) :
    lines (texts.flatMap line ++ rest) = texts ++ lines rest := by
  induction texts with
  | nil => rfl
  | cons text texts ih =>
      obtain ⟨first, others⟩ := List.forall_mem_cons.mp unbroken
      rw [List.flatMap_cons, List.append_assoc, lines_line_append first, ih others,
        List.cons_append]

private theorem newline_not_mem_decimalInt (value : Int) : newline ∉ decimalInt value :=
  (graphic_decimalInt value).newline_not_mem

end Bytes

namespace Word

private theorem newline_not_mem_of_valueFrom {value : Nat} {digits : Bytes}
    (read : Hex.valueFrom 0 digits = some value) : newline ∉ Hex.marked digits := by
  have denoted := Hex.valueFrom_zero_eq_some_iff.mp read
  exact (Hex.Unmarked.lower.graphic (Hex.graphic_of_digits denoted.digits)).newline_not_mem

theorem newline_not_mem_hex (word : Word) : newline ∉ word.hex := by
  rw [hex_eq_marked_padded]
  exact newline_not_mem_of_valueFrom (Hex.valueFrom_padded 64 word.toNat)

private theorem newline_not_mem_format (word : Word) : newline ∉ word.format true 'x' :=
  newline_not_mem_of_valueFrom word.valueFrom_minimalDigits

end Word

/-! ## What a script prints while it runs -/

namespace Script

structure Report (text : Bytes) : Prop where
  letter : text.head? = some 0x70
  unbroken : newline ∉ text

theorem printed_reports (operation : Operation) (reply : Stack.Reply) :
    operation.printed reply = [] ∨
      ∃ text, operation.printed reply = Bytes.line text ∧ Report text ∧
        (text.take 4 = ascii "pop " ↔ operation.pops = true) := by
  have noPop : ascii "peek" ≠ ascii "pop " := by decide
  fun_cases Operation.printed operation reply with
  | case1 word =>
      refine .inr ⟨_, rfl, ⟨rfl, ?_⟩, fun _ => rfl, fun _ => rfl⟩
      simp only [List.mem_append, not_or]
      exact ⟨by decide, word.newline_not_mem_format⟩
  | case2 position word =>
      refine .inr ⟨_, rfl, ⟨rfl, ?_⟩, fun same => absurd same noPop, nofun⟩
      simp only [List.mem_append, not_or]
      exact ⟨⟨⟨by decide, Bytes.newline_not_mem_decimalInt position⟩, by decide⟩,
        word.newline_not_mem_format⟩
  | case3 position =>
      refine .inr ⟨_, rfl, ⟨rfl, ?_⟩, fun same => absurd same noPop, nofun⟩
      simp only [List.mem_append, not_or]
      exact ⟨⟨by decide, Bytes.newline_not_mem_decimalInt position⟩, by decide⟩
  | case4 => exact .inl rfl

variable {Sink : Type}

private theorem executeFrom_reports (step : Nat) (stack : Stack Sink) (script : List Instruction) :
    ∃ texts : List Bytes, (executeFrom step stack script).output = texts.flatMap Bytes.line ∧
      ∀ text ∈ texts, Report text := by
  induction script generalizing step stack with
  | nil => exact ⟨[], rfl, List.forall_mem_nil _⟩
  | cons instruction rest ih =>
      rw [executeFrom]
      cases answer : (stack.apply instruction.operation.toOp).result with
      | error cause => exact ⟨[], rfl, List.forall_mem_nil _⟩
      | ok reply =>
          obtain ⟨texts, later, reports⟩ :=
            ih (step + 1) (stack.apply instruction.operation.toOp).stack
          rcases printed_reports instruction.operation reply with
            silent | ⟨text, printed, report, _⟩
          · refine ⟨texts, ?_, reports⟩
            simp only [silent, later, List.nil_append]
          · refine ⟨text :: texts, ?_, List.forall_mem_cons.mpr ⟨report, reports⟩⟩
            simp only [printed, later, List.flatMap_cons]

/-! ## Scripts of pushes -/

def pushArgument (text : Bytes) : Bytes :=
  ascii "push:" ++ text

private theorem readInstruction_pushArgument {text : Bytes} {word : Word}
    (parsed : Word.parse text = .ok word) :
    readInstruction (pushArgument text) = .ok ⟨.push word, pushArgument text⟩ := by
  have free : colon ∉ ascii "push" := by decide
  have spelled : Keyword.Spells Keyword.push.spelling (ascii "push") :=
    .cons (.head _) (.cons (.head _) (.cons (.head _) (.cons (.head _) .nil)))
  have read : readOperation .push (some text) = .ok (.push word) :=
    map_eq_ok_iff.mpr ⟨word, mapError_eq_ok_iff.mpr parsed, rfl⟩
  exact readInstruction_eq_ok_iff.mpr
    ⟨ascii "push", some text, .push, .push word, .operand free, spelled, read, rfl⟩

/-- A word with a text that is read as it. -/
structure Push where
  word : Word
  text : Bytes
  parsed : Word.parse text = .ok word

def Push.instruction (push : Push) : Instruction :=
  ⟨.push push.word, pushArgument push.text⟩

private theorem read_pushes (pushes : List Push) :
    read (pushes.map fun push => pushArgument push.text) = .ok (pushes.map Push.instruction) := by
  rw [read_eq_ok_iff, List.map_map, List.map_map]
  exact List.map_congr_left fun push _ => readInstruction_pushArgument push.parsed

theorem executeFrom_pushes {stack : Stack Sink} (unheard : stack.tracer.leaves = [])
    (pushes : List Push) (room : stack.depth + pushes.length ≤ stackLimit) (step : Nat) :
    let execution := executeFrom step stack (pushes.map Push.instruction)
    execution.error = none ∧ execution.output = [] ∧ execution.calls = [] ∧
      execution.stack.items = stack.items ++ pushes.map (·.word) := by
  induction pushes generalizing stack step with
  | nil => exact ⟨rfl, rfl, rfl, (List.append_nil _).symm⟩
  | cons push rest ih =>
      rw [List.length_cons] at room
      have realized := Stack.apply_realizes stack (.push push.word)
      have fits : stack.items.length < stackLimit := by
        rw [Stack.length_items]
        omega
      rw [Stack.Op.meaning, Stack.Meaning.push, if_pos fits] at realized
      have depth : (stack.apply (.push push.word)).stack.depth = stack.depth + 1 := by
        rw [← Stack.length_items, realized.items, List.length_append, Stack.length_items]
        rfl
      have stillUnheard : (stack.apply (.push push.word)).stack.tracer.leaves = [] := by
        rw [realized.tracer, unheard]
      have noCalls : (stack.apply (.push push.word)).calls = [] := by
        rw [realized.calls, Option.map_some, Option.getD_some, Tracer.notify_eq_map_leaves, unheard]
        rfl
      obtain ⟨error, output, calls, items⟩ := ih stillUnheard (by omega) (step + 1)
      simp only [List.map_cons, executeFrom, Push.instruction, Operation.toOp, realized.result]
      refine ⟨error, ?_, ?_, ?_⟩
      · rw [output]
        rfl
      · rw [noCalls, calls]
        rfl
      · rw [items, realized.items, List.append_assoc]
        rfl

end Script

/-! ## The command -/

namespace Command

/-- The lines of an output that give a word with all its digits. -/
def snapshotLines (stdout : Bytes) : List Bytes :=
  (Bytes.lines stdout).filter fun text => text.take 2 = ascii "0x"

private theorem snapshotLines_of_reports {texts : List Bytes}
    (reports : ∀ text ∈ texts, Script.Report text) (words : List Word) :
    snapshotLines (texts.flatMap Bytes.line ++ words.flatMap fun word => Bytes.line word.hex) =
      words.map Word.hex := by
  have printed : (words.flatMap fun word => Bytes.line word.hex) =
      (words.map Word.hex).flatMap Bytes.line ++ [] := by
    rw [List.flatMap_map, List.append_nil]
  have unbroken : ∀ text ∈ words.map Word.hex, newline ∉ text := by
    intro text member
    obtain ⟨word, _, rfl⟩ := List.mem_map.mp member
    exact word.newline_not_mem_hex
  have dropped : texts.filter (fun text => text.take 2 = ascii "0x") = [] := by
    refine List.filter_eq_nil_iff.mpr fun text member marked => ?_
    obtain ⟨letter, _⟩ := reports text member
    cases text with
    | nil => cases letter
    | cons first rest =>
        obtain rfl := Option.some.inj letter
        simp [ascii] at marked
  have kept : (words.map Word.hex).filter (fun text => text.take 2 = ascii "0x") =
      words.map Word.hex := by
    refine List.filter_eq_self.mpr fun text member => ?_
    obtain ⟨word, _, rfl⟩ := List.mem_map.mp member
    rfl
  rw [snapshotLines, Bytes.lines_flatMap_line_append fun text member => (reports text member).2,
    printed, Bytes.lines_flatMap_line_append unbroken, Bytes.lines, List.append_nil,
    List.filter_append, dropped, kept, List.nil_append]

private theorem readInvocation_of_operation {first : Bytes}
    (plain : Argument.ofBytes first = .operation) (rest : List Bytes) :
    readInvocation (first :: rest) =
      .replay { Settings.initial with operations := first :: rest } := by
  rw [readInvocation, readFlags.eq_def]
  simp only [plain, Bool.false_eq_true, ↓reduceIte]

private theorem snapshotLines_of_finished {arguments : List Bytes} {output : Output}
    (invoked : readInvocation arguments = .finished output) : snapshotLines output.stdout = [] := by
  rw [readInvocation] at invoked
  split at invoked
  · cases invoked
    rfl
  · cases invoked
    rfl
  · split at invoked
    · cases invoked
      decide
    · cases invoked

def Settings.execution (settings : Settings) (script : List Script.Instruction) :
    Script.Execution Observer :=
  Script.execute (Stack.new [some settings.tracer]) script

private theorem run_of_code_zero {arguments : List Bytes} {settings : Settings}
    (invoked : readInvocation arguments = .replay settings) (ended : (run arguments).code = 0) :
    ∃ script, Script.read settings.operations = .ok script ∧
      (settings.execution script).error = none ∧
      (run arguments).stdout = (settings.execution script).output ++
        (settings.execution script).stack.snapshot.flatMap fun word => Bytes.line word.hex := by
  simp only [run, invoked] at ended ⊢
  cases fault : settings.fault? with
  | some error => simp [fault] at ended
  | none =>
      cases readable : Script.read settings.operations with
      | error error => simp [fault, readable] at ended
      | ok script =>
          simp only [fault, readable, replay] at ended ⊢
          cases halted : (Script.execute (Stack.new [some settings.tracer]) script).error with
          | none => exact ⟨script, rfl, halted, rfl⟩
          | some error =>
              cases cause : error.cause with
              | stack fault => simp [halted, cause] at ended
              | range fault => simp [halted, cause] at ended

/-- A replay that ends with code 0 has read and executed its whole script. It prints the stack
behind what the script printed, and the lines of the two can be told apart. -/
theorem snapshotLines_run {arguments : List Bytes} {settings : Settings}
    (invoked : readInvocation arguments = .replay settings) (ended : (run arguments).code = 0) :
    ∃ script, Script.read settings.operations = .ok script ∧
      (settings.execution script).error = none ∧
      (run arguments).stdout = (settings.execution script).output ++
        (snapshotLines (run arguments).stdout).flatMap Bytes.line ∧
      snapshotLines (run arguments).stdout =
        (settings.execution script).stack.snapshot.map Word.hex := by
  obtain ⟨script, readable, finished, printed⟩ := run_of_code_zero invoked ended
  obtain ⟨texts, output, reports⟩ :=
    Script.executeFrom_reports 0 (Stack.new [some settings.tracer]) script
  have shown : snapshotLines (run arguments).stdout =
      (settings.execution script).stack.snapshot.map Word.hex := by
    rw [printed, Settings.execution, Script.execute, output]
    exact snapshotLines_of_reports reports _
  refine ⟨script, readable, finished, ?_, shown⟩
  rw [shown, List.flatMap_map]
  exact printed

private theorem depth_execution_le {settings : Settings} {script : List Script.Instruction}
    (finished : (settings.execution script).error = none) :
    (settings.execution script).stack.depth ≤ stackLimit := by
  have empty := Stack.depth_new [some settings.tracer]
  have free := (Script.execute_error_eq_none_iff empty script).mp finished
  have bounded : (Stack.new [some settings.tracer]).depth ≤ stackLimit := by omega
  exact (Script.executeFrom_of_faultFree bounded (by simpa [empty] using free) 0).2.2

private theorem replay_pushes {settings : Settings} (untraced : settings.trace = false)
    (unmeasured : settings.metrics = false) {pushes : List Script.Push}
    (fits : pushes.length ≤ stackLimit) :
    replay settings (pushes.map Script.Push.instruction) =
      ⟨0, (pushes.map (·.word)).reverse.flatMap fun word => Bytes.line word.hex, []⟩ := by
  have unheard : (Stack.new [some settings.tracer]).tracer.leaves = [] := by
    rw [Stack.new, Stack.tracer_configure, Settings.tracer, untraced, unmeasured]
    rfl
  have room : (Stack.new [some settings.tracer]).depth + pushes.length ≤ stackLimit := by
    rw [Stack.depth_new]
    omega
  obtain ⟨error, output, calls, items⟩ := Script.executeFrom_pushes unheard pushes room 0
  rw [Stack.items_new, List.nil_append] at items
  simp only [replay, Script.execute, error, output, calls, Stack.snapshot_eq_reverse_items, items,
    unmeasured]
  rfl

theorem run_pushes {pushes : List Script.Push} (held : pushes ≠ [])
    (fits : pushes.length ≤ stackLimit) :
    run (pushes.map fun push => Script.pushArgument push.text) =
      ⟨0, (pushes.map (·.word)).reverse.flatMap fun word => Bytes.line word.hex, []⟩ := by
  obtain ⟨first, rest, rfl⟩ := List.exists_cons_of_ne_nil held
  have readable := Script.read_pushes (first :: rest)
  have plain : Argument.ofBytes (Script.pushArgument first.text) = .operation := rfl
  have invoked := readInvocation_of_operation plain
    (rest.map fun push => Script.pushArgument push.text)
  rw [List.map_cons] at readable ⊢
  rw [Reference.run_of_read_ok invoked rfl readable]
  exact replay_pushes rfl rfl fits

theorem run_spellings {entries : List (Word × Word.Spelling)} (held : entries ≠ [])
    (fits : entries.length ≤ stackLimit) :
    run (entries.map fun (word, spelling) => Script.pushArgument (spelling.write word)) =
      ⟨0, (entries.map (·.1)).reverse.flatMap fun word => Bytes.line word.hex, []⟩ := by
  let push (entry : Word × Word.Spelling) : Script.Push :=
    ⟨entry.1, entry.2.write entry.1, Word.parse_write entry.1 entry.2⟩
  have pushed := @run_pushes (entries.map push) (by simpa using held) (by simpa using fits)
  rw [List.map_map, List.map_map] at pushed
  exact pushed

theorem run_snapshotLines {arguments : List Bytes} (ended : (run arguments).code = 0)
    (held : snapshotLines (run arguments).stdout ≠ []) :
    run ((snapshotLines (run arguments).stdout).reverse.map Script.pushArgument) =
      ⟨0, (snapshotLines (run arguments).stdout).flatMap Bytes.line, []⟩ := by
  cases invoked : readInvocation arguments with
  | finished output =>
      have same : run arguments = output := by simp only [run, invoked]
      rw [same] at held
      exact absurd (snapshotLines_of_finished invoked) held
  | replay settings =>
      obtain ⟨script, _, finished, _, shown⟩ := snapshotLines_run invoked ended
      have depth := depth_execution_le finished
      rw [← Stack.length_items] at depth
      rw [Stack.snapshot_eq_reverse_items] at shown
      generalize (settings.execution script).stack.items = items at depth shown
      have nonempty : items ≠ [] := by
        rintro rfl
        exact held shown
      have upward : (items.reverse.map Word.hex).reverse = items.map Word.hex := by
        rw [List.map_reverse, List.reverse_reverse]
      have pushed := @run_spellings (items.map fun word => (word, .full))
        (by simpa using nonempty) (by simpa using depth)
      simp only [List.map_map, Function.comp_def, Word.Spelling.write, List.map_id'] at pushed
      rw [shown, upward, List.map_map, List.flatMap_map]
      exact pushed

/-- A replay that ends with code 0 prints the words of its stack behind what the script printed, and
they can be told by their marks. Pushing them from the last to the first prints them again and
nothing else. So do words in any of their texts, as many as a stack holds. -/
theorem snapshot_replays_through_pushes :
    (∀ arguments settings, readInvocation arguments = .replay settings →
      (run arguments).code = 0 →
        ∃ script, Script.read settings.operations = .ok script ∧
          (settings.execution script).error = none ∧
          (run arguments).stdout = (settings.execution script).output ++
            (snapshotLines (run arguments).stdout).flatMap Bytes.line ∧
          snapshotLines (run arguments).stdout =
            (settings.execution script).stack.snapshot.map Word.hex) ∧
    (∀ arguments, (run arguments).code = 0 → snapshotLines (run arguments).stdout ≠ [] →
      run ((snapshotLines (run arguments).stdout).reverse.map Script.pushArgument) =
        ⟨0, (snapshotLines (run arguments).stdout).flatMap Bytes.line, []⟩) ∧
    (∀ entries : List (Word × Word.Spelling), entries ≠ [] → entries.length ≤ 1024 →
      run (entries.map fun (word, spelling) => Script.pushArgument (spelling.write word)) =
        ⟨0, (entries.map (·.1)).reverse.flatMap fun word => Bytes.line word.hex, []⟩) := by
  refine ⟨?_, ?_, ?_⟩
  · intro arguments settings invoked ended
    exact snapshotLines_run invoked ended
  · intro arguments ended held
    exact run_snapshotLines ended held
  · intro entries held fits
    exact run_spellings held fits

def measuredCall : List Bytes :=
  [ascii "-metrics", ascii "push:0A", ascii "pushsize:7", ascii "pop"]

theorem measuredCall_snapshot_replays :
    (run measuredCall).code = 0 ∧
      snapshotLines (run measuredCall).stdout = [(Word.ofUInt64 10).hex] ∧
      run [Script.pushArgument (Word.ofUInt64 10).hex] =
        ⟨0, Bytes.line (Word.ofUInt64 10).hex, []⟩ := by
  have ended : (run measuredCall).code = 0 := by decide +kernel
  have shown : snapshotLines (run measuredCall).stdout = [(Word.ofUInt64 10).hex] := by
    decide +kernel
  have held : snapshotLines (run measuredCall).stdout ≠ [] := by
    rw [shown]
    exact List.cons_ne_nil _ _
  have replayed := snapshot_replays_through_pushes.2.1 measuredCall ended held
  rw [shown] at replayed
  exact ⟨ended, shown, replayed⟩

end Command

end OperandStack
