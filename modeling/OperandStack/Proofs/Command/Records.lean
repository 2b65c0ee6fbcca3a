import OperandStack.Proofs.Command.SnapshotReplay
import OperandStack.Proofs.Log.Record
import OperandStack.Proofs.Metrics.Meter
import OperandStack.Proofs.Script.Course

/-!
# The log of a replay

The records that a replay leaves in the log are written out here as texts: one for each push that
succeeds, and one with the measurements. Settings and script alone decide on them. The pushes are
those of the script's course, so nothing depends on loggers, tracers or stacks.
-/

set_option autoImplicit false

namespace OperandStack

open Bytes (Graphic)
open Script (Instruction pushesFrom peakFrom)

/-! ## Texts in a log -/

namespace Log

theorem Plain.graphic {text : Bytes} (plain : Plain text) : Graphic text := by
  intro byte member
  obtain ⟨shown, below, _⟩ := plain byte member
  exact ⟨shown, UInt8.ne_of_lt below⟩

private theorem level_ofVerbosity_le_iff (verbosity : Int) :
    ((Severity.ofVerbosity verbosity).level ≤ Severity.debug.level ↔ 4 ≤ verbosity) ∧
      ((Severity.ofVerbosity verbosity).level ≤ Severity.info.level ↔ 3 ≤ verbosity) := by
  unfold Severity.ofVerbosity
  repeat' split
  all_goals
    simp only [Severity.level]
    unfold Level
    omega

end Log

theorem Word.plain_text (word : Word) : Log.Plain word.text := by
  have digits := (Hex.valueFrom_zero_eq_some_iff.mp word.valueFrom_minimalDigits).digits
  have table : Log.Plain (ascii "0123456789abcdef" ++ ascii "0123456789ABCDEF") := by decide
  refine List.forall_mem_cons.mpr ⟨by decide, List.forall_mem_cons.mpr ⟨by decide, ?_⟩⟩
  exact fun byte member => table byte (digits byte member).mem

namespace Command

open Reference (shortHex ascii_shortHex)

/-! ## Records -/

def pushRecord (number depth : Nat) : Bytes :=
  ascii "\x7b\"level\":\"DEBUG\",\"msg\":\"push\",\"module\":\"evmstack\",\"module\":\"stack\"," ++
    ascii "\"value\":\"" ++ ascii (shortHex number) ++ ascii "\",\"depth\":" ++
    Bytes.decimal depth ++ ascii "\x7d"

def metricsRecord (pushes : Int) (peak : Nat) : Bytes :=
  ascii "\x7b\"level\":\"INFO\",\"msg\":\"stack metrics\",\"module\":\"evmstack\"," ++
    ascii "\"pushes\":" ++ Bytes.decimalInt pushes ++ ascii ",\"peak_depth\":" ++
    Bytes.decimal peak ++ ascii "\x7d"

private theorem pushRecord_eq_line (word : Word) (depth : Nat) :
    pushRecord word.toNat depth =
      Log.line .debug (ascii "push")
        [⟨ascii "module", .text (ascii "evmstack")⟩, ⟨ascii "module", .text (ascii "stack")⟩,
          ⟨ascii "value", .text word.text⟩, ⟨ascii "depth", .int depth⟩] := by
  have number : ascii (shortHex word.toNat) = word.text := ascii_shortHex word
  simp (disch := decide) only [pushRecord, number, Log.line, List.flatMap_cons, List.flatMap_nil,
    Log.json_of_plain, Log.Value.json, Log.jsonText_of_plain, Log.jsonText_of_plain word.plain_text,
    List.append_assoc, List.cons_append, List.nil_append]
  rfl

private theorem metricsRecord_eq_line (pushes : Int) (peak : Nat) :
    metricsRecord pushes peak =
      Log.line .info (ascii "stack metrics")
        [⟨ascii "module", .text (ascii "evmstack")⟩, ⟨ascii "pushes", .int pushes⟩,
          ⟨ascii "peak_depth", .int peak⟩] := by
  simp (disch := decide) only [metricsRecord, Log.line, List.flatMap_cons, List.flatMap_nil,
    Log.json_of_plain, Log.Value.json, Log.jsonText_of_plain, List.append_assoc, List.cons_append,
    List.nil_append]
  rfl

private theorem graphic_pushRecord (word : Word) (depth : Nat) :
    Graphic (pushRecord word.toNat depth) := by
  have number : Graphic (ascii (shortHex word.toNat)) := by
    rw [ascii_shortHex]
    exact word.plain_text.graphic
  exact .append (.append (.append (.append (.append (by decide) (by decide)) number) (by decide))
    (Bytes.graphic_decimal depth)) (by decide)

private theorem graphic_metricsRecord (pushes : Int) (peak : Nat) :
    Graphic (metricsRecord pushes peak) :=
  .append (.append (.append (.append (.append (by decide) (by decide))
    (Bytes.graphic_decimalInt pushes)) (by decide)) (Bytes.graphic_decimal peak)) (by decide)

/-! ## What the observers hear -/

def Settings.watches (settings : Settings) : Observer → Bool
  | .journal => settings.trace
  | .meter => settings.metrics

private theorem filter_calls_execution (settings : Settings) (script : List Instruction)
    (observer : Observer) :
    (settings.execution script).calls.filter (·.sink = observer) =
      if settings.watches observer then
        (pushesFrom 0 script).map fun (word, depth) => ⟨observer, word, depth⟩
      else [] := by
  have empty := Stack.depth_new [some settings.tracer]
  -- The tracer has at most one place for each observer.
  have once (word : Word) (depth : Nat) :
      (settings.tracer.notify word depth).filter (·.sink = observer) =
        if settings.watches observer then [⟨observer, word, depth⟩] else [] := by
    obtain ⟨verbosity, trace, metrics, operations⟩ := settings
    cases trace <;> cases metrics <;> cases observer <;> rfl
  have heard : (settings.execution script).calls = (pushesFrom 0 script).flatMap
      fun (word, depth) => settings.tracer.notify word depth := by
    have calls := Script.executeFrom_calls (empty.trans_le (Nat.zero_le stackLimit)) 0 script
    rw [empty] at calls
    rw [Settings.execution, Script.execute, calls, Stack.new, Stack.tracer_configure]
    rfl
  rw [heard, List.filter_flatMap]
  simp only [once]
  cases settings.watches observer with
  | true => exact List.map_eq_flatMap.symm
  | false => exact List.flatMap_eq_nil_iff.mpr fun _ _ => rfl

/-! ## The log of a replay -/

/-- The records of the pushes that succeed, as far as they are asked for. -/
def Settings.pushRecords (settings : Settings) (script : List Instruction) : List Bytes :=
  if settings.trace ∧ 4 ≤ settings.verbosity then
    (pushesFrom 0 script).map fun (word, depth) => pushRecord word.toNat depth
  else []

/-- The record of the measurements, if it is asked for. The count is written in 64 bits. -/
def Settings.metricsRecords (settings : Settings) (script : List Instruction) : List Bytes :=
  if settings.metrics ∧ 3 ≤ settings.verbosity then
    [metricsRecord (Int.bmod (pushesFrom 0 script).length (2 ^ 64)) (peakFrom 0 script)]
  else []

def Settings.records (settings : Settings) (script : List Instruction) : List Bytes :=
  settings.pushRecords script ++ settings.metricsRecords script

theorem graphic_of_mem_records {settings : Settings} {script : List Instruction} {text : Bytes}
    (member : text ∈ settings.records script) : Graphic text := by
  rcases List.mem_append.mp member with pushed | measured
  · rw [Settings.pushRecords] at pushed
    split at pushed
    · obtain ⟨⟨word, depth⟩, _, rfl⟩ := List.mem_map.mp pushed
      exact graphic_pushRecord word depth
    · cases pushed
  · rw [Settings.metricsRecords] at measured
    split at measured
    · obtain rfl := List.mem_singleton.mp measured
      exact graphic_metricsRecord _ _
    · cases measured

private theorem pushLine?_logger (settings : Settings) (word : Word) (depth : Nat) :
    (settings.logger.forModule (ascii "stack")).pushLine? word depth =
      if 4 ≤ settings.verbosity then some (pushRecord word.toNat depth) else none := by
  rw [pushRecord_eq_line]
  refine ite_congr ?_ (fun _ => rfl) (fun _ => rfl)
  exact (decide_eq_true_iff.trans (Log.level_ofVerbosity_le_iff settings.verbosity).1).eq

private theorem metricsLine_logger (settings : Settings) {meter : PushMeter} {count peak : Nat}
    (shown : meter.Shows count peak) :
    metricsLine settings.logger meter =
      if 3 ≤ settings.verbosity then
        Bytes.line (metricsRecord (Int.bmod count (2 ^ 64)) peak)
      else [] := by
  have line? : settings.logger.line? .info (ascii "stack metrics")
        [.text (ascii "pushes"), .int meter.pushes.value.toInt,
         .text (ascii "peak_depth"), .int meter.peakDepth.value.toInt] =
      if 3 ≤ settings.verbosity then some (metricsRecord (Int.bmod count (2 ^ 64)) peak)
      else none := by
    rw [metricsRecord_eq_line, shown.toInt_pushes, shown.toInt_peakDepth]
    refine ite_congr ?_ (fun _ => rfl) (fun _ => rfl)
    exact (decide_eq_true_iff.trans (Log.level_ofVerbosity_le_iff settings.verbosity).2).eq
  rw [metricsLine, line?]
  by_cases loud : 3 ≤ settings.verbosity
  · rw [if_pos loud, if_pos loud]
  · rw [if_neg loud, if_neg loud]

private theorem journalLines_execution (settings : Settings) (script : List Instruction) :
    journalLines settings.logger (settings.execution script).calls =
      (settings.pushRecords script).flatMap Bytes.line := by
  rw [journalLines, filter_calls_execution, Settings.pushRecords]
  simp only [pushLine?_logger, Settings.watches]
  by_cases watched : settings.trace = true
  · by_cases loud : 4 ≤ settings.verbosity
    · simp only [watched, loud, and_self, ↓reduceIte, List.flatMap_map]
    · simp only [watched, loud, and_false, ↓reduceIte]
      exact List.flatMap_eq_nil_iff.mpr fun _ _ => rfl
  · simp only [watched, false_and, Bool.false_eq_true, ↓reduceIte, List.flatMap_nil]

private theorem shows_measured {settings : Settings} (watched : settings.metrics = true)
    (script : List Instruction) :
    (measured (settings.execution script).calls).Shows (pushesFrom 0 script).length
      (peakFrom 0 script) := by
  have fit : ∀ depth ∈ (pushesFrom 0 script).map (·.2), depth < 2 ^ 63 := by
    intro depth member
    obtain ⟨push, found, rfl⟩ := List.mem_map.mp member
    exact Nat.lt_of_le_of_lt (Script.depth_le_of_mem_pushesFrom found) (by decide)
  -- The meter hears of pushes only, and these alone reach a new depth.
  have shown := PushMeter.shows_new.foldl_receive fit
  rw [Script.foldl_max_pushesFrom (Nat.le_refl 0), List.length_map, Nat.zero_add] at shown
  have heard : measured (settings.execution script).calls =
      ((pushesFrom 0 script).map (·.2)).foldl PushMeter.receive .new := by
    rw [measured, filter_calls_execution, Settings.watches, watched, if_pos rfl, List.foldl_map,
      List.foldl_map]
  rw [heard]
  exact shown

theorem log_execution (settings : Settings) (script : List Instruction) :
    (journalLines settings.logger (settings.execution script).calls ++
      if settings.metrics then
        metricsLine settings.logger (measured (settings.execution script).calls)
      else []) = (settings.records script).flatMap Bytes.line := by
  rw [journalLines_execution, Settings.records, List.flatMap_append, Settings.metricsRecords]
  by_cases watched : settings.metrics = true
  · rw [if_pos watched, metricsLine_logger settings (shows_measured watched script)]
    by_cases loud : 3 ≤ settings.verbosity
    · simp [watched, loud]
    · simp [loud]
  · simp [watched]

end Command

end OperandStack
