import OperandStack.Command.Flags
import OperandStack.Proofs.Script.Grammar

/-!
# Command lines as written

A command line is written as settings, each spelled in one of several ways, and operations. `Spells`
gives the spellings of one setting, `Closes` the ways in which operations may follow, and `Line` the
whole. Reading such a line gives the last setting of every option and exactly those operations, so
the order matters only among settings of the same option.
-/

set_option autoImplicit false

namespace OperandStack.Command

/-! ## Written settings -/

inductive Switch where
  | trace
  | metrics
  | version
  deriving DecidableEq, Repr

def Switch.flag : Switch → Flag
  | .trace => .trace
  | .metrics => .metrics
  | .version => .version

inductive Assignment where
  | verbosity (value : Int)
  | switch (switch : Switch) (on : Bool)
  deriving DecidableEq, Repr

namespace Assignment

def flag : Assignment → Flag
  | .verbosity _ => .verbosity
  | .switch named _ => named.flag

def verbosity? : Assignment → Option Int
  | .verbosity value => some value
  | .switch _ _ => none

def on? (switch : Switch) : Assignment → Option Bool
  | .verbosity _ => none
  | .switch other on => if other = switch then some on else none

end Assignment

/-- The last value that one of several settings picks. -/
def lastOf {Value : Type} (pick : Assignment → Option Value) (assignments : List Assignment) :
    Option Value :=
  (assignments.filterMap pick).getLast?

inductive Dashes : Bytes → Prop where
  | one : Dashes [dash]
  | two : Dashes [dash, dash]

/-- The arguments that spell one setting. A switch alone is on; a number also stands in an argument
of its own. -/
inductive Spells : List Bytes → Assignment → Prop where
  | bare {dashes switch} : Dashes dashes →
      Spells [dashes ++ switch.flag.name] (.switch switch true)
  | valued {dashes switch text on} : Dashes dashes →
      text ∈ (if on then trueTexts else falseTexts) →
      Spells [dashes ++ switch.flag.name ++ equals :: text] (.switch switch on)
  | number {dashes text value} : Dashes dashes → Numeral.readMarked text = .ok value →
      Spells [dashes ++ Flag.verbosity.name ++ equals :: text] (.verbosity value)
  | separateNumber {dashes text value} : Dashes dashes → Numeral.readMarked text = .ok value →
      Spells [dashes ++ Flag.verbosity.name, text] (.verbosity value)

/-- How operations follow the settings: behind two dashes whatever they are, or directly if there
are none or the first cannot be taken for a setting. -/
inductive Closes : (arguments operations : List Bytes) → Prop where
  | terminated {operations} : Closes ([dash, dash] :: operations) operations
  | nothing : Closes [] []
  | directly {first rest} : first.length < 2 ∨ first.head? ≠ some dash →
      Closes (first :: rest) (first :: rest)

inductive Line : (arguments : List Bytes) → List Assignment → (operations : List Bytes) → Prop where
  | operations {arguments operations} : Closes arguments operations → Line arguments [] operations
  | setting {spelled arguments assignment assignments operations} : Spells spelled assignment →
      Line arguments assignments operations →
      Line (spelled ++ arguments) (assignment :: assignments) operations

/-! ## Single arguments -/

theorem Flag.ofName?_name (flag : Flag) : Flag.ofName? flag.name = some flag := by
  cases flag <;> decide

private theorem Flag.exists_name_eq_cons (flag : Flag) :
    ∃ first rest, flag.name = first :: rest ∧ ¬(first = dash ∨ first = equals) ∧ equals ∉ rest := by
  cases flag <;> exact ⟨_, _, rfl, by decide, by decide⟩

theorem Dashes.ofBytes {dashes : Bytes} (dashed : Dashes dashes) {first : UInt8} {rest : Bytes}
    (named : ¬(first = dash ∨ first = equals)) :
    Argument.ofBytes (dashes ++ first :: rest) = Argument.ofBody (first :: rest) := by
  have other : first ≠ dash := fun same => named (.inl same)
  cases dashed with
  | one => simp only [List.cons_append, List.nil_append, Argument.ofBytes, other, ↓reduceIte]
  | two => rfl

private theorem Dashes.ofBytes_name {dashes : Bytes} (dashed : Dashes dashes) (flag : Flag) :
    Argument.ofBytes (dashes ++ flag.name) = .flag flag.name none := by
  obtain ⟨first, rest, name, named, free⟩ := flag.exists_name_eq_cons
  rw [name, dashed.ofBytes named, Argument.ofBody, if_neg named, Bytes.cut_of_not_mem free]

private theorem Dashes.ofBytes_value {dashes : Bytes} (dashed : Dashes dashes) (flag : Flag)
    (text : Bytes) :
    Argument.ofBytes (dashes ++ flag.name ++ equals :: text) = .flag flag.name (some text) := by
  obtain ⟨first, rest, name, named, free⟩ := flag.exists_name_eq_cons
  rw [name, List.append_assoc, List.cons_append, dashed.ofBytes named, Argument.ofBody,
    if_neg named, Bytes.cut_append free]

private theorem readSwitch?_of_mem {text : Bytes} {on : Bool}
    (meant : text ∈ (if on then trueTexts else falseTexts)) : readSwitch? text = some on := by
  cases on with
  | true => exact if_pos meant
  | false =>
      have different : ∀ other ∈ falseTexts, other ∉ trueTexts := by decide
      rw [readSwitch?, if_neg (different text meant)]
      exact if_pos meant

/-! ## Reading a line -/

namespace FlagState

def assign (state : FlagState) : Assignment → FlagState
  | .verbosity value => { state with settings := { state.settings with verbosity := value } }
  | .switch switch on => state.setSwitch switch.flag on

def withOperations (state : FlagState) (operations : List Bytes) : FlagState :=
  { state with settings := { state.settings with operations } }

private theorem readVerbosity_of_ok {text : Bytes} {value : Int}
    (read : Numeral.readMarked text = .ok value) (state : FlagState) :
    state.readVerbosity text = .ok (state.assign (.verbosity value)) := by
  simp only [readVerbosity, read, assign]

end FlagState

private theorem readFlags_of_switch {argument : Bytes} {switch : Switch}
    {value : Option Bytes} {on : Bool}
    (flagged : Argument.ofBytes argument = .flag switch.flag.name value) (state : FlagState)
    (read : state.readSwitch switch.flag value = .ok (state.assign (.switch switch on)))
    (rest : List Bytes) :
    readFlags state (argument :: rest) = readFlags (state.assign (.switch switch on)) rest := by
  rw [readFlags.eq_def]
  simp only [flagged, Flag.ofName?_name]
  cases switch <;> simp only [Switch.flag] at read ⊢ <;> simp only [read]

theorem Spells.readFlags {spelled : List Bytes} {assignment : Assignment}
    (spells : Spells spelled assignment) (state : FlagState) (rest : List Bytes) :
    readFlags state (spelled ++ rest) = Command.readFlags (state.assign assignment) rest := by
  cases spells with
  | bare dashed => exact readFlags_of_switch (dashed.ofBytes_name _) state rfl rest
  | @valued dashes switch text on dashed meant =>
      have read : state.readSwitch switch.flag (some text) =
          .ok (state.assign (.switch switch on)) := by
        simp only [FlagState.readSwitch, readSwitch?_of_mem meant, FlagState.assign]
      exact readFlags_of_switch (dashed.ofBytes_value _ text) state read rest
  | @number dashes text value dashed read =>
      have next := FlagState.readVerbosity_of_ok read state
      rw [List.cons_append, readFlags.eq_def]
      simp only [dashed.ofBytes_value, Flag.ofName?_name, next, List.nil_append]
  | @separateNumber dashes text value dashed read =>
      have next := FlagState.readVerbosity_of_ok read state
      rw [List.cons_append, readFlags.eq_def]
      simp only [dashed.ofBytes_name, Flag.ofName?_name, List.cons_append, List.nil_append, next]

private theorem ofBytes_of_operation {argument : Bytes}
    (plain : argument.length < 2 ∨ argument.head? ≠ some dash) :
    Argument.ofBytes argument = .operation := by
  cases argument with
  | nil => rfl
  | cons first rest =>
      cases rest with
      | nil => rfl
      | cons second rest =>
          have other : first ≠ dash := by
            rintro rfl
            rcases plain with short | otherHead
            · simp only [List.length_cons] at short
              omega
            · exact otherHead rfl
          simp only [Argument.ofBytes, other, ↓reduceIte]

theorem Closes.readFlags {arguments operations : List Bytes} (closes : Closes arguments operations)
    (state : FlagState) : readFlags state arguments = .ok (state.withOperations operations) := by
  rw [readFlags.eq_def]
  cases closes with
  | terminated => rfl
  | nothing => rfl
  | directly plain => simp only [ofBytes_of_operation plain, FlagState.withOperations]

theorem Line.readFlags {arguments operations : List Bytes} {assignments : List Assignment}
    (line : Line arguments assignments operations) (state : FlagState) :
    readFlags state arguments =
      .ok ((assignments.foldl FlagState.assign state).withOperations operations) := by
  induction line generalizing state with
  | operations closes => exact closes.readFlags state
  | setting spells _ ih => exact (spells.readFlags state _).trans (ih _)

/-! ## The last setting stays -/

private theorem foldl_assign_eq_lastOf {Value : Type} {part : FlagState → Value}
    {pick : Assignment → Option Value}
    (step : ∀ state assignment,
      part (state.assign assignment) = (pick assignment).getD (part state))
    (assignments : List Assignment) (state : FlagState) :
    part (assignments.foldl FlagState.assign state) =
      (lastOf pick assignments).getD (part state) := by
  induction assignments generalizing state with
  | nil => rfl
  | cons assignment rest ih =>
      rw [List.foldl_cons, ih, step, lastOf, lastOf]
      cases picked : pick assignment with
      | none => simp only [List.filterMap_cons, picked, Option.getD_none]
      | some value =>
          simp only [List.filterMap_cons, picked, List.getLast?_cons, Option.getD_some]

def FlagState.on (state : FlagState) : Switch → Bool
  | .trace => state.settings.trace
  | .metrics => state.settings.metrics
  | .version => state.version

private theorem on_assign (switch : Switch) (state : FlagState) (assignment : Assignment) :
    (state.assign assignment).on switch = (assignment.on? switch).getD (state.on switch) := by
  cases assignment with
  | verbosity value => cases switch <;> rfl
  | switch other on => cases other <;> cases switch <;> rfl

private theorem verbosity_assign (state : FlagState) (assignment : Assignment) :
    (state.assign assignment).settings.verbosity =
      assignment.verbosity?.getD state.settings.verbosity := by
  cases assignment with
  | verbosity value => rfl
  | switch other on => cases other <;> rfl

/-- The settings of a line: three options with their last values, or what holds without one. -/
def lastSettings (assignments : List Assignment) (operations : List Bytes) : Settings where
  verbosity := (lastOf Assignment.verbosity? assignments).getD 3
  trace := (lastOf (Assignment.on? .trace) assignments).getD false
  metrics := (lastOf (Assignment.on? .metrics) assignments).getD false
  operations := operations

private theorem foldl_assign_initial (assignments : List Assignment) (operations : List Bytes) :
    (assignments.foldl FlagState.assign ⟨.initial, false⟩).withOperations operations =
      ⟨lastSettings assignments operations,
        (lastOf (Assignment.on? .version) assignments).getD false⟩ := by
  have verbosity := @foldl_assign_eq_lastOf _ (·.settings.verbosity) _ verbosity_assign assignments
    ⟨.initial, false⟩
  have switches (switch : Switch) :=
    @foldl_assign_eq_lastOf _ (·.on switch) _ (on_assign switch) assignments ⟨.initial, false⟩
  have trace := switches .trace
  have metrics := switches .metrics
  have version := switches .version
  simp only [FlagState.on] at trace metrics version
  simp only [FlagState.withOperations, verbosity, trace, metrics, version]
  rfl

theorem Line.readInvocation {arguments operations : List Bytes} {assignments : List Assignment}
    (line : Line arguments assignments operations) :
    readInvocation arguments =
      if (lastOf (Assignment.on? .version) assignments).getD false then
        .finished ⟨0, versionLine, []⟩
      else .replay (lastSettings assignments operations) := by
  rw [Command.readInvocation, line.readFlags, foldl_assign_initial]

/-! ## Reordered settings -/

private theorem lastOf_congr {Value : Type} {pick : Assignment → Option Value} {flag : Flag}
    (own : ∀ assignment, assignment.flag ≠ flag → pick assignment = none)
    {left right : List Assignment}
    (same : left.filter (·.flag = flag) = right.filter (·.flag = flag)) :
    lastOf pick left = lastOf pick right := by
  have picked (assignments : List Assignment) :
      (assignments.filter (·.flag = flag)).filterMap pick = assignments.filterMap pick := by
    rw [List.filterMap_filter]
    congr 1
    funext assignment
    by_cases flagged : assignment.flag = flag
    · simp only [flagged, decide_true, ↓reduceIte]
    · simp only [flagged, decide_false, Bool.false_eq_true, ↓reduceIte, own assignment flagged]
  rw [lastOf, lastOf, ← picked left, same, picked right]

/-- A line of settings in any of their spellings and of operations is read as written. Unless the
last word on the version is that it be shown, nothing is written and each option has its last value,
or the one that it has without a setting; the operations are exactly those of the line, also if they
look like settings. If it is, the version line is all. A line with the same settings for each option
by itself, in whatever order and spelling otherwise, is read alike. -/
theorem settings_read_as_written (arguments operations : List Bytes)
    (assignments : List Assignment) (line : Line arguments assignments operations) :
    (lastOf (Assignment.on? .version) assignments ≠ some true →
      readInvocation arguments = .replay (lastSettings assignments operations)) ∧
    (lastOf (Assignment.on? .version) assignments = some true →
      readInvocation arguments =
        .finished ⟨0, ascii "evmstack v0.1.0-dev (commit unknown)\n", []⟩) ∧
    ∀ (others : List Bytes) (reordered : List Assignment), Line others reordered operations →
      (∀ flag, reordered.filter (·.flag = flag) = assignments.filter (·.flag = flag)) →
        readInvocation others = readInvocation arguments := by
  refine ⟨?_, ?_, ?_⟩
  · intro hidden
    rw [line.readInvocation]
    cases last : lastOf (Assignment.on? .version) assignments with
    | none => rfl
    | some on =>
        cases on with
        | false => rfl
        | true => exact absurd last hidden
  · intro shown
    rw [line.readInvocation, shown]
    rfl
  · intro others reordered otherLine same
    have verbosity := @lastOf_congr _ Assignment.verbosity? .verbosity
      (by rintro (value | ⟨_ | _ | _, on⟩) <;> simp [Assignment.flag, Assignment.verbosity?])
      _ _ (same .verbosity)
    have switches (switch : Switch) := @lastOf_congr _ (Assignment.on? switch) switch.flag
      (by
        rintro (value | ⟨other, on⟩) different
        · rfl
        · exact if_neg fun equal => different (congrArg Switch.flag equal))
      _ _ (same switch.flag)
    rw [line.readInvocation, otherLine.readInvocation, lastSettings, lastSettings, verbosity,
      switches .trace, switches .metrics, switches .version]

/-- A line with settings that are overridden, a number in an argument of its own, and an operation
that looks like a setting. -/
def mixedLine : List Bytes :=
  [ascii "--trace=F", ascii "-verbosity", ascii "0x4", ascii "-trace", ascii "--version=0",
    ascii "--verbosity=-0b1", ascii "--", ascii "-metrics"]

theorem mixedLine_settings_read :
    readInvocation mixedLine = .replay ⟨-1, true, false, [ascii "-metrics"]⟩ := by
  have line : Line mixedLine
      [.switch .trace false, .verbosity 4, .switch .trace true, .switch .version false,
        .verbosity (-1)] [ascii "-metrics"] :=
    .setting (@Spells.valued _ .trace (ascii "F") false .two (by decide)) <|
      .setting (@Spells.separateNumber _ (ascii "0x4") 4 .one rfl) <|
      .setting (@Spells.bare _ .trace .one) <|
      .setting (@Spells.valued _ .version (ascii "0") false .two (by decide)) <|
      .setting (@Spells.number _ (ascii "-0b1") (-1) .two rfl) <|
      .operations .terminated
  exact (settings_read_as_written _ _ _ line).1 (by decide)

end OperandStack.Command
