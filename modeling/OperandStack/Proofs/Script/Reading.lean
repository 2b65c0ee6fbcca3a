import OperandStack.Script.Reading

/-!
# Reading a script argument by argument

A script is read exactly if every argument is, and its refusal is that of the first bad argument.
-/

set_option autoImplicit false

namespace OperandStack.Script

private theorem read_cons_of_error {argument : Bytes} {error : ReadingError}
    (refused : readInstruction argument = .error error) (rest : List Bytes) :
    read (argument :: rest) = .error error := by
  rw [read, refused]

private theorem read_cons_of_ok {argument : Bytes} {instruction : Instruction}
    (accepted : readInstruction argument = .ok instruction) (rest : List Bytes) :
    read (argument :: rest) = (read rest).map (instruction :: ·) := by
  rw [read, accepted]
  cases read rest <;> rfl

theorem read_eq_ok_iff {arguments : List Bytes} {script : List Instruction} :
    read arguments = .ok script ↔ arguments.map readInstruction = script.map .ok := by
  induction arguments generalizing script with
  | nil => cases script <;> simp [read]
  | cons argument rest ih =>
      cases now : readInstruction argument with
      | error error =>
          rw [read_cons_of_error now, List.map_cons, now]
          cases script <;> simp
      | ok instruction =>
          rw [read_cons_of_ok now, List.map_cons, now]
          cases script with
          | nil => cases read rest <;> simp [Except.map]
          | cons first others =>
              rw [List.map_cons, List.cons.injEq, Except.ok.injEq, ← ih]
              cases read rest with
              | error error => simp [Except.map]
              | ok instructions => simp [Except.map]

theorem read_eq_error_iff {arguments : List Bytes} {error : ReadingError} :
    read arguments = .error error ↔
      ∃ before argument after, arguments = before ++ argument :: after ∧
        (∀ earlier ∈ before, ∃ instruction, readInstruction earlier = .ok instruction) ∧
        readInstruction argument = .error error := by
  constructor
  · intro refused
    induction arguments with
    | nil => cases refused
    | cons argument rest ih =>
        cases now : readInstruction argument with
        | error cause =>
            rw [read_cons_of_error now] at refused
            cases refused
            exact ⟨[], argument, rest, rfl, by simp, now⟩
        | ok instruction =>
            rw [read_cons_of_ok now] at refused
            cases later : read rest with
            | ok instructions => rw [later] at refused; cases refused
            | error cause =>
                rw [later] at refused
                cases refused
                obtain ⟨before, bad, after, rfl, accepted, found⟩ := ih later
                refine ⟨argument :: before, bad, after, rfl, ?_, found⟩
                exact List.forall_mem_cons.mpr ⟨⟨instruction, now⟩, accepted⟩
  · rintro ⟨before, bad, after, rfl, accepted, found⟩
    induction before with
    | nil => exact read_cons_of_error found after
    | cons first others ih =>
        obtain ⟨⟨instruction, now⟩, acceptedOthers⟩ := List.forall_mem_cons.mp accepted
        rw [List.cons_append, read_cons_of_ok now, ih acceptedOthers]
        rfl

/-- Nothing is read as soon as one argument is refused, wherever it stands. -/
theorem read_of_refused {arguments : List Bytes} {argument : Bytes} {error : ReadingError}
    (member : argument ∈ arguments) (refused : readInstruction argument = .error error) :
    ∃ first, read arguments = .error first := by
  cases result : read arguments with
  | error first => exact ⟨first, rfl⟩
  | ok script =>
      have mapped : readInstruction argument ∈ arguments.map readInstruction :=
        List.mem_map_of_mem member
      rw [read_eq_ok_iff.mp result, refused] at mapped
      obtain ⟨_, _, impossible⟩ := List.mem_map.mp mapped
      cases impossible

theorem read_of_not_refused {arguments : List Bytes}
    (accepted : ¬∃ argument ∈ arguments, ∃ error, readInstruction argument = .error error) :
    ∃ script, read arguments = .ok script := by
  cases result : read arguments with
  | ok script => exact ⟨script, rfl⟩
  | error error =>
      obtain ⟨before, bad, after, rfl, _, refused⟩ := read_eq_error_iff.mp result
      exact absurd ⟨bad, by simp, error, refused⟩ accepted

theorem exists_read_iff {arguments : List Bytes} :
    (∃ script, read arguments = .ok script) ↔
      ∀ argument ∈ arguments, ∃ instruction, readInstruction argument = .ok instruction := by
  constructor
  · rintro ⟨script, accepted⟩ argument member
    cases now : readInstruction argument with
    | ok instruction => exact ⟨instruction, rfl⟩
    | error error =>
        obtain ⟨first, refused⟩ := read_of_refused member now
        rw [accepted] at refused
        cases refused
  · intro accepted
    refine read_of_not_refused ?_
    rintro ⟨argument, member, error, refused⟩
    obtain ⟨instruction, now⟩ := accepted argument member
    rw [now] at refused
    cases refused

end OperandStack.Script
