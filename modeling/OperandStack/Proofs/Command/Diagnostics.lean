import OperandStack.Proofs.Command.Records

/-!
# What the command writes to the error output

A replay writes the records of its log and then the report of the first fault, if there is one. Each
is a line of its own. What is written can be compared between verbosities, and with the lines that
the standard output holds on popped and on remaining words.
-/

set_option autoImplicit false

namespace OperandStack.Command

open Bytes (Graphic)
open Script (Instruction FaultFree FirstFault pushesFrom peakFrom)

/-! ## How a replay ends -/

/-- The code and the report that a script ends with. -/
inductive Ending (script : List Instruction) : (code : Nat) → (reports : List Bytes) → Prop where
  | finished : FaultFree 0 script → Ending script 0 []
  | halted {index instruction fault} : FirstFault 0 script index instruction fault →
      Ending script 1 [ascii "Execution halted: " ++
        Script.ExecutionError.message ⟨index, instruction.source, .stack fault⟩]

theorem exists_ending (script : List Instruction) :
    ∃ code reports, Ending script code reports := by
  rcases Script.faultFree_or_firstFault 0 script with free | ⟨index, instruction, fault, first⟩
  · exact ⟨0, [], .finished free⟩
  · exact ⟨1, _, .halted first⟩

theorem Ending.graphic {arguments : List Bytes} {script : List Instruction} {code : Nat}
    {reports : List Bytes} (ending : Ending script code reports)
    (readable : Script.read arguments = .ok script) : ∀ report ∈ reports, Graphic report := by
  cases ending with
  | finished => exact List.forall_mem_nil _
  | halted first =>
      refine List.forall_mem_singleton.mpr ?_
      exact .append (by decide) (first.graphic_message readable)

theorem Ending.replay {script : List Instruction} {code : Nat} {reports : List Bytes}
    (ending : Ending script code reports) (settings : Settings) :
    (Command.replay settings script).code = code ∧
      (Command.replay settings script).stderr =
        (settings.records script ++ reports).flatMap Bytes.line := by
  have empty := Stack.depth_new [some settings.tracer]
  have log := log_execution settings script
  rw [Settings.execution] at log
  rw [List.flatMap_append]
  unfold Command.replay
  dsimp only
  rw [log]
  cases ending with
  | finished free =>
      rw [(Script.execute_error_eq_none_iff empty script).mpr free]
      exact ⟨rfl, (List.append_nil _).symm⟩
  | halted first =>
      rw [(Script.execute_of_firstFault empty first).2]
      exact ⟨rfl, by simp⟩

private theorem Ending.lines_stderr {arguments : List Bytes} {script : List Instruction}
    {code : Nat} {reports : List Bytes} (ending : Ending script code reports)
    (readable : Script.read arguments = .ok script) (settings : Settings) :
    Bytes.lines (Command.replay settings script).stderr = settings.records script ++ reports := by
  have unbroken : ∀ text ∈ settings.records script ++ reports, newline ∉ text := by
    intro text member
    rcases List.mem_append.mp member with record | report
    · exact (graphic_of_mem_records record).newline_not_mem
    · exact (ending.graphic readable text report).newline_not_mem
  have split := Bytes.lines_flatMap_line_append unbroken []
  rw [List.append_nil, ← (ending.replay settings).2] at split
  exact split.trans (List.append_nil _)

theorem records_sublist {settings : Settings} {verbosity : Int}
    (louder : settings.verbosity ≤ verbosity) (script : List Instruction) :
    (settings.records script).Sublist ({ settings with verbosity }.records script) := by
  have more {least : Int} {wanted : Bool} (texts : List Bytes) :
      (if wanted ∧ least ≤ settings.verbosity then texts else []).Sublist
        (if wanted ∧ least ≤ verbosity then texts else []) := by
    by_cases shown : wanted ∧ least ≤ settings.verbosity
    · rw [if_pos shown, if_pos ⟨shown.1, Int.le_trans shown.2 louder⟩]
    · rw [if_neg shown]
      exact List.nil_sublist _
  exact (more _).append (more _)

/-! ## Pushes, pops and the remaining words -/

/-- The lines of an output that report a popped word. -/
def popLines (stdout : Bytes) : List Bytes :=
  (Bytes.lines stdout).filter fun text => text.take 4 = ascii "pop "

private theorem popLines_line_append {text : Bytes} (unbroken : newline ∉ text) (rest : Bytes) :
    popLines (Bytes.line text ++ rest) =
      if text.take 4 = ascii "pop " then text :: popLines rest else popLines rest := by
  rw [popLines, Bytes.lines_line_append unbroken, List.filter_cons]
  simp only [decide_eq_true_eq]
  rfl

private theorem popLines_listing (words : List Word) :
    popLines (words.flatMap fun word => Bytes.line word.hex) = [] := by
  induction words with
  | nil => rfl
  | cons word rest ih =>
      rw [List.flatMap_cons, popLines_line_append word.newline_not_mem_hex, ih]
      rfl

private theorem exists_word_of_pop {stack : Stack Observer} {reply : Stack.Reply}
    (answered : (stack.apply .pop).result = .ok reply) : ∃ word, reply = .word word := by
  rw [(Stack.apply_realizes stack .pop).result, Stack.Op.meaning, Stack.Meaning.pop] at answered
  cases top : stack.items.getLast? with
  | none =>
      rw [top] at answered
      cases answered
  | some word =>
      rw [top] at answered
      cases answered
      exact ⟨word, rfl⟩

private theorem length_popLines_printed {stack : Stack Observer} {operation : Script.Operation}
    {reply : Stack.Reply} (answered : (stack.apply operation.toOp).result = .ok reply)
    (rest : Bytes) :
    (popLines (operation.printed reply ++ rest)).length =
      (popLines rest).length + if operation.pops then 1 else 0 := by
  rcases Script.printed_reports operation reply with silent | ⟨text, printed, report, kind⟩
  · have noPop : operation.pops = false := by
      cases operation with
      | pop =>
          -- A pop that is answered gives a word, and that is not passed over in silence.
          obtain ⟨word, rfl⟩ := exists_word_of_pop answered
          cases silent
      | push | pushSize | pushAddress | swap | peek => rfl
    rw [silent, noPop]
    rfl
  · rw [printed, popLines_line_append report.unbroken]
    cases pops : operation.pops with
    | true =>
        rw [if_pos (kind.mpr pops)]
        rfl
    | false =>
        have other : text.take 4 ≠ ascii "pop " := by
          intro same
          rw [kind.mp same] at pops
          cases pops
        rw [if_neg other]
        rfl

private theorem length_popLines_executeFrom {stack : Stack Observer} {step : Nat}
    {script : List Instruction}
    (finished : (Script.executeFrom step stack script).error = none) (rest : Bytes) :
    (popLines ((Script.executeFrom step stack script).output ++ rest)).length =
      (popLines rest).length + script.countP (·.operation.pops) := by
  induction script generalizing stack step with
  | nil => rfl
  | cons instruction others ih =>
      rw [Script.executeFrom] at finished ⊢
      cases answer : (stack.apply instruction.operation.toOp).result with
      | error cause =>
          rw [answer] at finished
          cases finished
      | ok reply =>
          rw [answer] at finished
          dsimp only
          rw [List.append_assoc, length_popLines_printed answer, ih finished, List.countP_cons,
            Nat.add_assoc]

private theorem length_pushes_of_code_zero {arguments : List Bytes} {settings : Settings}
    {script : List Instruction} (invoked : readInvocation arguments = .replay settings)
    (readable : Script.read settings.operations = .ok script) (ended : (run arguments).code = 0) :
    (pushesFrom 0 script).length =
      (popLines (run arguments).stdout).length + (snapshotLines (run arguments).stdout).length := by
  obtain ⟨_, read, finished, printed, shown⟩ := snapshotLines_run invoked ended
  obtain rfl := Except.ok.inj (readable.symm.trans read)
  have empty := Stack.depth_new [some settings.tracer]
  have free := (Script.execute_error_eq_none_iff empty script).mp finished
  have popped : (popLines (run arguments).stdout).length = script.countP (·.operation.pops) := by
    rw [printed, shown, List.flatMap_map]
    have counted := length_popLines_executeFrom finished
      ((settings.execution script).stack.snapshot.flatMap fun word => Bytes.line word.hex)
    rw [popLines_listing] at counted
    exact counted.trans (Nat.zero_add _)
  have held : (snapshotLines (run arguments).stdout).length =
      (settings.execution script).stack.depth := by
    rw [shown, List.length_map, Stack.snapshot_eq_reverse_items, List.length_reverse,
      Stack.length_items]
  have left : ((settings.execution script).stack.depth : Int) = Script.netDepth script := by
    have bounded : (Stack.new [some settings.tracer]).depth ≤ stackLimit := by omega
    have depth := (Script.executeFrom_of_faultFree bounded (by simpa [empty] using free) 0).2.1
    rw [empty] at depth
    exact depth.trans (Int.zero_add _)
  rw [Script.length_pushesFrom_of_faultFree free, popped, held]
  rw [Script.netDepth] at left
  omega

/-! ## Exact diagnostics -/

private theorem operations_suffix {state final : FlagState} {arguments : List Bytes}
    (read : readFlags state arguments = .ok final) :
    final.settings.operations <:+ arguments := by
  fun_induction readFlags state arguments
  case case1 | case2 =>
    cases read
    exact List.suffix_rfl
  case case3 =>
    cases read
    exact List.suffix_cons _ _
  case case4 | case5 | case6 | case8 | case9 | case11 => cases read
  case case7 ih | case12 ih => exact (ih read).trans (List.suffix_cons _ _)
  case case10 ih =>
    -- The flag takes its value from the next argument, so two are gone.
    exact (ih read).trans ((List.suffix_cons _ _).trans (List.suffix_cons _ _))

/-- No list of arguments that fits in memory makes the count of pushes wrap around. -/
private theorem bmod_length_pushes {arguments : List Bytes} {settings : Settings}
    {script : List Instruction} (invoked : readInvocation arguments = .replay settings)
    (readable : Script.read settings.operations = .ok script) (short : arguments.length < 2 ^ 63) :
    Int.bmod (pushesFrom 0 script).length (2 ^ 64) = (pushesFrom 0 script).length := by
  have fewer : settings.operations.length ≤ arguments.length := by
    rw [readInvocation] at invoked
    split at invoked
    · cases invoked
    · cases invoked
    · next state read =>
        split at invoked
        · cases invoked
        · cases invoked
          exact (operations_suffix read).length_le
  have length := congrArg List.length (Script.read_eq_ok_iff.mp readable)
  rw [List.length_map, List.length_map] at length
  have pushes := Script.length_pushesFrom_le 0 script
  exact Int.bmod_eq_of_le (by omega) (by omega)

/-- On arguments that ask for a replay with valid settings and a script that can be read, the error
output holds the records of the pushes, then the record of the measurements, then the report of the
first fault, a line for each. A greater verbosity only adds lines. Without a fault, the pushes that
were not popped are the words that remain. -/
theorem diagnostics_exact (arguments : List Bytes) (settings : Settings)
    (script : List Instruction) (invoked : readInvocation arguments = .replay settings)
    (valid : settings.fault? = none) (readable : Script.read settings.operations = .ok script) :
    (∃ reports, Ending script (run arguments).code reports ∧
      (run arguments).stderr =
        (settings.pushRecords script ++ settings.metricsRecords script ++ reports).flatMap
          Bytes.line ∧
      Bytes.lines (run arguments).stderr =
        settings.pushRecords script ++ settings.metricsRecords script ++ reports) ∧
    (arguments.length < 2 ^ 63 →
      Int.bmod (pushesFrom 0 script).length (2 ^ 64) = (pushesFrom 0 script).length) ∧
    (∀ (others : List Bytes) (verbosity : Int), settings.verbosity ≤ verbosity →
      readInvocation others = .replay { settings with verbosity } →
      { settings with verbosity }.fault? = none →
        (Bytes.lines (run arguments).stderr).Sublist (Bytes.lines (run others).stderr)) ∧
    ((run arguments).code = 0 →
      ((pushesFrom 0 script).length : Int) - (popLines (run arguments).stdout).length =
        (snapshotLines (run arguments).stdout).length) := by
  obtain ⟨code, reports, ending⟩ := exists_ending script
  have replayed := Reference.run_of_read_ok invoked valid readable
  obtain ⟨coded, written⟩ := ending.replay settings
  refine ⟨⟨reports, ?_, ?_, ?_⟩, ?_, ?_, ?_⟩
  · rw [replayed, coded]
    exact ending
  · rw [replayed]
    exact written
  · rw [replayed]
    exact ending.lines_stderr readable settings
  · exact bmod_length_pushes invoked readable
  · intro others verbosity louder otherInvoked otherValid
    rw [replayed, Reference.run_of_read_ok otherInvoked otherValid readable,
      ending.lines_stderr readable, ending.lines_stderr readable]
    exact (records_sublist louder script).append (List.Sublist.refl reports)
  · intro ended
    have balance := length_pushes_of_code_zero invoked readable ended
    omega

def tracedCall : List Bytes :=
  [ascii "-trace", ascii "-metrics", ascii "-verbosity=4", ascii "push:0A", ascii "pop",
    ascii "pop"]

def tracedSettings : Settings :=
  ⟨4, true, true, [ascii "push:0A", ascii "pop", ascii "pop"]⟩

def tracedScript : List Instruction :=
  [⟨.push (Word.ofUInt64 10), ascii "push:0A"⟩, ⟨.pop, ascii "pop"⟩, ⟨.pop, ascii "pop"⟩]

theorem tracedCall_diagnostics :
    (run tracedCall).code = 1 ∧
      ∃ report, Bytes.lines (run tracedCall).stderr =
        [pushRecord 10 1, metricsRecord 1 1, report] := by
  have invoked : readInvocation tracedCall = .replay tracedSettings := by decide +kernel
  have readable : Script.read tracedSettings.operations = .ok tracedScript := by decide +kernel
  have ended : (run tracedCall).code = 1 := by decide +kernel
  have records : tracedSettings.pushRecords tracedScript ++
      tracedSettings.metricsRecords tracedScript = [pushRecord 10 1, metricsRecord 1 1] := by
    decide +kernel
  obtain ⟨⟨reports, ending, _, lines⟩, _⟩ :=
    diagnostics_exact tracedCall tracedSettings tracedScript invoked (by decide) readable
  rw [ended] at ending
  rw [records] at lines
  cases ending with
  | halted => exact ⟨ended, _, lines⟩

end OperandStack.Command
