import OperandStack.Proofs.Command.Diagnostics

/-!
# Reports on one line

Arguments are strings of any bytes, and parts of them come back in the report of a failure. Most
parts are quoted, and a quoted text has no control byte; the source of a refused operation is not,
but only an argument without control bytes gets that far. So the report of a failure is always the
last line of the error output and a single one, and no argument can write a line of its own.
-/

set_option autoImplicit false

namespace OperandStack

open Bytes (Graphic)

/-! ## Quoted texts -/

namespace Text

private theorem Printable.lt_of_isPrintable {code : Nat} (printable : isPrintable code = true) :
    code < 0x110000 := by
  have bounded : ∀ range ∈ supplementary, range.2 < 0x110000 := by decide +kernel
  by_cases basic : code < 0x10000
  · omega
  · have beyond : ¬code < 0x1000 := by omega
    have above : ¬code < 0x80 := by omega
    simp only [isPrintable, above, ↓reduceIte, ranges, beyond, basic] at printable
    obtain ⟨range, member, inside⟩ := List.any_eq_true.mp printable
    simp only [Bool.and_eq_true, decide_eq_true_eq] at inside
    exact Nat.lt_of_le_of_lt inside.2 (bounded range member)

private theorem Utf8.graphic_encode {code : Nat} (shown : 0x20 ≤ code ∧ code ≠ 0x7f)
    (valid : code < 0x110000) : Graphic (encode code) := by
  unfold encode
  repeat' split
  -- A character beyond ASCII has the high bit set in each of its bytes.
  all_goals
    simp only [Graphic, List.forall_mem_cons, List.not_mem_nil, false_implies, implies_true,
      and_true, UInt8.le_iff_toNat_le, ne_eq, ← UInt8.toNat_inj, UInt8.toNat_ofNat',
      UInt8.reduceToNat]
    omega

private theorem Utf8.graphic_encode_of_isPrintable {code : Nat}
    (printable : Printable.isPrintable code = true) : Graphic (encode code) :=
  graphic_encode (Printable.not_control_of_isPrintable printable)
    (Printable.lt_of_isPrintable printable)

end Text

private theorem Hex.graphic_padded (width value : Nat) : Graphic (padded width value) :=
  graphic_of_digits (valueFrom_zero_eq_some_iff.mp (valueFrom_padded width value)).digits

namespace Text.Quoted

private theorem graphic_shortEscape {code : Nat} {letter : UInt8}
    (short : shortEscape? code = some letter) :
    Graphic [0x5c, letter] := by
  unfold shortEscape? at short
  repeat' split at short
  all_goals cases short
  all_goals decide

private theorem graphic_escape_leading (lead : UInt8) (rest : Bytes) :
    Graphic (escape (Utf8.leading lead rest).1) := by
  cases piece : (Utf8.leading lead rest).1 with
  | stray byte => exact .append (by decide) (Hex.graphic_padded 2 byte.toNat)
  | scalar code encoding =>
      obtain rfl := Utf8.encoding_leading piece
      simp only [escape]
      split
      · next marked =>
          rcases marked with rfl | rfl
          · decide
          · decide
      · split
        · next printable => exact Utf8.graphic_encode_of_isPrintable printable
        · split
          · next short => exact graphic_shortEscape short
          · split
            · exact .append (by decide) (Hex.graphic_padded 2 code)
            · split
              · exact .append (by decide) (Hex.graphic_padded 4 code)
              · exact .append (by decide) (Hex.graphic_padded 8 code)

theorem graphic_quote (text : Bytes) : Graphic (quote text) := by
  have inner : Graphic ((Utf8.pieces text).flatMap escape) := by
    fun_induction Utf8.pieces text with
    | case1 => exact List.forall_mem_nil _
    | case2 lead rest ih => exact (graphic_escape_leading lead rest).append ih
  exact .append (.cons (by decide) inner) (by decide)

end Text.Quoted

open Text.Quoted (graphic_quote)

/-! ## Causes of refusals -/

private theorem Hex.graphic_map_upperDigit {text : Bytes} (graphic : Graphic text) :
    Graphic (text.map upperDigit) := by
  intro byte member
  obtain ⟨digit, found, rfl⟩ := List.mem_map.mp member
  have shown := graphic digit found
  unfold upperDigit
  split
  · next letter =>
      simp only [UInt8.le_iff_toNat_le, ne_eq, ← UInt8.toNat_inj, UInt8.reduceToNat] at letter ⊢
      rw [UInt8.toNat_sub_of_le _ _ (UInt8.le_iff_toNat_le.mpr (by simp; omega))]
      simp only [UInt8.reduceToNat]
      omega
  · exact shown

private theorem Hex.graphic_codePoint (byte : UInt8) : Graphic (codePoint byte) := by
  have number : Graphic (ascii "U+" ++ upperPadded 4 byte.toNat) :=
    .append (by decide) (graphic_map_upperDigit (graphic_padded 4 byte.toNat))
  unfold codePoint
  dsimp only
  split
  · next printable =>
      have character := Text.Utf8.graphic_encode_of_isPrintable printable
      exact .append (.append (.append number (by decide)) character) (by decide)
  · exact number

theorem Hex.DecodeError.graphic_message (error : DecodeError) : Graphic error.message := by
  cases error with
  | badByte byte => exact .append (by decide) (graphic_codePoint byte)
  | oddLength => decide

theorem Word.HexError.graphic_message (error : HexError) : Graphic error.message := by
  have condition := error.condition.graphic_message.append (by decide : Graphic (ascii ": "))
  cases error with
  | badLength digits => exact condition.append (graphic_quote digits)
  | badDigits cause => exact condition.append cause.graphic_message

theorem Address.ParseError.graphic_message (error : ParseError) : Graphic error.message := by
  cases error with
  | tooLong digits => exact .append (.append (by decide) (graphic_quote digits)) (by decide)
  | badDigits digits cause =>
      exact .append (.append (.append (by decide) (graphic_quote digits)) (by decide))
        cause.graphic_message

theorem Numeral.Error.graphic_message (error : Error) : Graphic error.message := by
  have reader : Graphic error.reader.name := by cases error.reader <;> decide
  have fault : Graphic error.fault.message := by cases error.fault <;> decide
  exact .append (.append (.append (.append reader (by decide)) (graphic_quote error.text))
    (by decide)) fault

theorem Script.OperandError.graphic_message (error : OperandError) : Graphic error.message := by
  cases error with
  | word cause => exact cause.graphic_message
  | address cause => exact cause.graphic_message
  | number cause => exact cause.graphic_message
  | unexpectedOperand | unknownOperation => decide

theorem Script.ReadingError.graphic_message (error : ReadingError) : Graphic error.message :=
  .append (.append (.append (by decide) (graphic_quote error.argument)) (by decide))
    error.cause.graphic_message

theorem Command.SettingsError.graphic_message (error : SettingsError) : Graphic error.message := by
  cases error with
  | verbosity value => exact .append (by decide) (Bytes.graphic_decimalInt value)
  | noOperations => decide

/-! ## Failures of the command -/

namespace Command

open Script (FirstFault)

/-- The ways in which a replay that was asked for fails, each with its code, the records of the log
before the report, and the report. -/
inductive Failure (settings : Settings) :
    (code : Nat) → (records : List Bytes) → (report : Bytes) → Prop where
  | unfit {error} : settings.fault? = some error →
      Failure settings 2 [] (ascii "Invalid configuration: " ++ error.message)
  | unreadable {error} : settings.fault? = none →
      Script.read settings.operations = .error error →
      Failure settings 2 [] (ascii "Error: " ++ error.message)
  | halted {script index instruction fault} : settings.fault? = none →
      Script.read settings.operations = .ok script →
      FirstFault 0 script index instruction fault →
      Failure settings 1 (settings.records script) (ascii "Execution halted: " ++
        Script.ExecutionError.message ⟨index, instruction.source, .stack fault⟩)

variable {settings : Settings} {code : Nat} {records : List Bytes} {report : Bytes}

theorem Failure.graphic (failure : Failure settings code records report) : Graphic report := by
  cases failure with
  | unfit => exact .append (by decide) (SettingsError.graphic_message _)
  | unreadable => exact .append (by decide) (Script.ReadingError.graphic_message _)
  | halted _ readable first => exact .append (by decide) (first.graphic_message readable)

private theorem Failure.graphic_records (failure : Failure settings code records report) :
    ∀ record ∈ records, Graphic record := by
  cases failure with
  | unfit | unreadable => exact List.forall_mem_nil _
  | halted => exact fun _ member => graphic_of_mem_records member

private theorem exists_failure {arguments : List Bytes}
    (invoked : readInvocation arguments = .replay settings) (failed : (run arguments).code ≠ 0) :
    ∃ records report, Failure settings (run arguments).code records report ∧
      (run arguments).stderr = (records ++ [report]).flatMap Bytes.line := by
  cases fault : settings.fault? with
  | some error =>
      have refused : run arguments =
          ⟨2, [], Bytes.line (ascii "Invalid configuration: " ++ error.message)⟩ := by
        simp only [run, invoked, fault]
      rw [refused]
      exact ⟨_, _, .unfit fault, by simp⟩
  | none =>
      cases readable : Script.read settings.operations with
      | error error =>
          rw [Reference.run_of_read_error invoked fault readable]
          exact ⟨_, _, .unreadable fault readable, by simp⟩
      | ok script =>
          rw [Reference.run_of_read_ok invoked fault readable] at failed ⊢
          obtain ⟨code, reports, ending⟩ := exists_ending script
          obtain ⟨coded, written⟩ := ending.replay settings
          rw [coded] at failed ⊢
          cases ending with
          | finished => exact absurd rfl failed
          | halted first => exact ⟨_, _, .halted fault readable first, written⟩

/-- If a replay that was asked for ends with code 1 or 2, then the error output ends with a report
of one of three kinds, whatever bytes the arguments have. The report is one line: behind it stands a
line feed, and in it neither another one nor any other control byte. What comes before are the
records of the log, each a line as well. -/
theorem failure_reported_on_one_line (arguments : List Bytes) (settings : Settings)
    (invoked : readInvocation arguments = .replay settings)
    (failed : (run arguments).code = 1 ∨ (run arguments).code = 2) :
    ∃ records report, Failure settings (run arguments).code records report ∧
      (run arguments).stderr = records.flatMap Bytes.line ++ (report ++ [0x0a]) ∧
      (∀ byte ∈ report, 0x20 ≤ byte ∧ byte ≠ 0x7f) ∧
      Bytes.lines (run arguments).stderr = records ++ [report] := by
  have notZero : (run arguments).code ≠ 0 := by omega
  obtain ⟨records, report, failure, written⟩ := exists_failure invoked notZero
  have unbroken : ∀ text ∈ records ++ [report], newline ∉ text := by
    intro text member
    rcases List.mem_append.mp member with record | last
    · exact (failure.graphic_records text record).newline_not_mem
    · obtain rfl := List.mem_singleton.mp last
      exact failure.graphic.newline_not_mem
  have split := Bytes.lines_flatMap_line_append unbroken []
  refine ⟨records, report, failure, ?_, failure.graphic, ?_⟩
  · rw [written]
    simp [Bytes.line, newline]
  · rw [written]
    simpa [Bytes.lines] using split

/-- Arguments that try to end the report and to write one of their own: a line feed, a delete byte
and a byte outside UTF-8 stand before a text in the form of a report. -/
def forgingCall : List Bytes :=
  [ascii "push:1", ascii "pop" ++ [0x0a, 0x7f, 0xff] ++ ascii "Execution halted: step 0"]

theorem forgingCall_reported_on_one_line :
    (run forgingCall).code = 2 ∧
      ∃ report, (run forgingCall).stderr = report ++ [0x0a] ∧
        (∀ byte ∈ report, 0x20 ≤ byte ∧ byte ≠ 0x7f) ∧
        Bytes.lines (run forgingCall).stderr = [report] := by
  have invoked : readInvocation forgingCall = .replay ⟨3, false, false, forgingCall⟩ := by
    decide +kernel
  have failed : (run forgingCall).code = 2 := by decide +kernel
  obtain ⟨records, report, failure, written, graphic, lines⟩ :=
    failure_reported_on_one_line forgingCall _ invoked (.inr failed)
  rw [failed] at failure
  cases failure with
  | unfit | unreadable => exact ⟨failed, _, written, graphic, lines⟩

end Command

end OperandStack
