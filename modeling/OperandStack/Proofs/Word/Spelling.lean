import OperandStack.Proofs.Word.Value

/-!
# Reading back the texts of a word

Hexadecimal digits denote a number, `Hex.valueFrom`, whatever their case and however many zeros
stand before them. Decoding digit pairs keeps that number and a word is determined by it, so every
text that a word is written with is read as that word.
-/

set_option autoImplicit false

namespace OperandStack

/-! ## Words are determined by their numbers -/

theorem Bytes.eq_of_toNat_eq {left right : Bytes} (length : left.length = right.length)
    (same : toNat left = toNat right) : left = right := by
  induction left using List.reverseRecOn generalizing right with
  | nil => exact (List.eq_nil_of_length_eq_zero length.symm).symm
  | append_singleton left byte ih =>
      cases right using List.reverseRecOn with
      | nil => simp at length
      | append_singleton right other =>
          rw [toNat_append_singleton, toNat_append_singleton] at same
          rw [List.length_append, List.length_append] at length
          have low := byte.toNat_lt
          have otherLow := other.toNat_lt
          have front := ih (Nat.add_right_cancel length) (by omega)
          have last : byte = other := UInt8.toNat_inj.mp (by omega)
          rw [front, last]

theorem Word.eq_of_toNat_eq {left right : Word} (same : left.toNat = right.toNat) :
    left = right := by
  apply Word.ext
  apply FixedBytes.ext
  refine Bytes.eq_of_toNat_eq ?_ same
  rw [left.bytes.length_toList, right.bytes.length_toList]

theorem Word.toNat_ofBytes {bytes : Bytes} (short : bytes.length ≤ wordLength) :
    (Word.ofBytes bytes).toNat = Bytes.toNat bytes := by
  have whole : bytes.drop (bytes.length - wordLength) = bytes := by
    rw [Nat.sub_eq_zero_of_le short, List.drop_zero]
  rw [Word.toNat, FixedBytes.toNat, Word.ofBytes, FixedBytes.toList_ofBytes, whole,
    Bytes.toNat_append, Bytes.toNat_replicate_zero, Nat.zero_mul, Nat.zero_add]

/-! ## Numbers of hexadecimal digits -/

namespace Hex

/-- The number that digits of either case denote behind those of a number before them; none if there
is a byte that is no digit. -/
def valueFrom (start : Nat) : Bytes → Option Nat
  | [] => some start
  | byte :: rest =>
      match digitValue? byte with
      | none => none
      | some value => valueFrom (start * 16 + value) rest

theorem valueFrom_append (start : Nat) (front back : Bytes) :
    valueFrom start (front ++ back) =
      (valueFrom start front).bind fun value => valueFrom value back := by
  induction front generalizing start with
  | nil => rfl
  | cons byte rest ih =>
      rw [List.cons_append, valueFrom, valueFrom]
      cases digitValue? byte with
      | none => rfl
      | some value => exact ih _

theorem digitValue?_digit {value : Nat} (small : value < 16) :
    digitValue? (digit value) = some value := by
  have all : ∀ nibble : Fin 16, digitValue? (digit nibble.val) = some nibble.val := by
    decide
  exact all ⟨value, small⟩

theorem digitValue?_lt {byte : UInt8} {value : Nat} (read : digitValue? byte = some value) :
    value < 16 := by
  unfold digitValue? at read
  simp only [UInt8.le_iff_toNat_le, UInt8.reduceToNat] at read
  split at read
  · cases read
    omega
  · split at read
    · cases read
      omega
    · split at read
      · cases read
        omega
      · cases read

private theorem digitValue?_upperDigit (byte : UInt8) :
    digitValue? (upperDigit byte) = digitValue? byte := by
  by_cases letter : 0x61 ≤ byte ∧ byte ≤ 0x66
  · have all : ∀ code : Fin 0x67, 0x61 ≤ code.val →
        digitValue? (upperDigit (UInt8.ofNat code)) = digitValue? (UInt8.ofNat code) := by
      decide
    have bounds := letter
    simp only [UInt8.le_iff_toNat_le, UInt8.reduceToNat] at bounds
    have here := all ⟨byte.toNat, by omega⟩ bounds.1
    rwa [UInt8.ofNat_toNat] at here
  · rw [upperDigit, if_neg letter]

private theorem valueFrom_map_upperDigit (start : Nat) (digits : Bytes) :
    valueFrom start (digits.map upperDigit) = valueFrom start digits := by
  induction digits generalizing start with
  | nil => rfl
  | cons byte rest ih =>
      rw [List.map_cons, valueFrom, valueFrom, digitValue?_upperDigit]
      cases digitValue? byte with
      | none => rfl
      | some value => exact ih _

private theorem valueFrom_zeros (count : Nat) (digits : Bytes) :
    valueFrom 0 (List.replicate count 0x30 ++ digits) = valueFrom 0 digits := by
  induction count with
  | zero => rfl
  | succ count ih =>
      rw [List.replicate_succ, List.cons_append]
      exact ih

theorem valueFrom_minimal (value : Nat) : valueFrom 0 (minimal value) = some value := by
  induction value using Nat.strongRecOn with
  | ind value ih =>
      by_cases small : value < 16
      · rw [minimal_of_lt small, valueFrom, digitValue?_digit small]
        simp only [valueFrom, Nat.zero_mul, Nat.zero_add]
      · have last : value % 16 < 16 := Nat.mod_lt _ (by decide)
        rw [minimal_of_le (by omega), valueFrom_append, ih (value / 16) (by omega),
          Option.bind_some, valueFrom, digitValue?_digit last]
        simp only [valueFrom, Option.some.injEq]
        omega

theorem valueFrom_padded (width value : Nat) : valueFrom 0 (padded width value) = some value := by
  rw [padded, valueFrom_zeros, valueFrom_minimal]

theorem length_minimal_pos (value : Nat) : 0 < (minimal value).length := by
  rw [minimal, List.length_map]
  exact Nat.length_toDigits_pos

theorem length_minimal_le {width value : Nat} (wide : 0 < width) (fits : value < 16 ^ width) :
    (minimal value).length ≤ width := by
  rw [minimal, List.length_map]
  exact (Nat.length_toDigits_le_iff (by decide) wide).mpr fits

theorem isSome_digitValue?_of_mem {start value : Nat} {digits : Bytes} {byte : UInt8}
    (read : valueFrom start digits = some value) (member : byte ∈ digits) :
    ∃ digit, digitValue? byte = some digit := by
  induction digits generalizing start with
  | nil => cases member
  | cons first rest ih =>
      rw [valueFrom] at read
      cases here : digitValue? first with
      | none =>
          rw [here] at read
          cases read
      | some digit =>
          rw [here] at read
          rcases List.mem_cons.mp member with rfl | later
          · exact ⟨digit, here⟩
          · exact ih read later

/-! ## Decoding -/

theorem decode_of_valueFrom {start value : Nat} {digits : Bytes} (even : digits.length % 2 = 0)
    (read : valueFrom start digits = some value) :
    (decode digits).fault = none ∧ 2 * (decode digits).bytes.length = digits.length ∧
      (decode digits).bytes.foldl (fun number byte => number * 256 + byte.toNat) start = value := by
  -- The induction takes two digits at a time, which shift the number by one byte.
  fun_induction decode digits generalizing start with
  | case1 => exact ⟨rfl, rfl, Option.some.inj read⟩
  | case2 => cases even
  | case3 => cases even
  | case4 high low rest bad =>
      rw [valueFrom, bad] at read
      cases read
  | case5 high low rest highValue good bad =>
      rw [valueFrom, good] at read
      simp only [valueFrom, bad, reduceCtorEq] at read
  | case6 high low rest highValue good lowValue goodLow tail =>
      rename_i ih
      dsimp only [tail]
      rw [valueFrom, good] at read
      simp only [valueFrom, goodLow] at read
      rw [List.length_cons, List.length_cons] at even
      obtain ⟨fault, length, number⟩ := ih (by omega) read
      have highSmall := digitValue?_lt good
      have lowSmall := digitValue?_lt goodLow
      have byte : (UInt8.ofNat (16 * highValue + lowValue)).toNat = 16 * highValue + lowValue := by
        rw [UInt8.toNat_ofNat']
        omega
      have shift : start * 256 + (16 * highValue + lowValue) =
          (start * 16 + highValue) * 16 + lowValue := by omega
      refine ⟨fault, ?_, ?_⟩
      · rw [List.length_cons, List.length_cons, List.length_cons, ← length]
        omega
      · rw [List.foldl_cons, byte, shift]
        exact number

theorem valueFrom_evened (digits : Bytes) :
    valueFrom 0 (evened digits) = valueFrom 0 digits := by
  unfold evened
  split
  · rfl
  · rfl

theorem length_evened (digits : Bytes) :
    (evened digits).length % 2 = 0 ∧ (evened digits).length = (digits.length + 1) / 2 * 2 := by
  unfold evened
  split
  · rw [List.length_cons]
    omega
  · omega

private theorem dropMark_of_valueFrom {start value : Nat} {digits : Bytes}
    (read : valueFrom start digits = some value) : dropMark digits = digits := by
  fun_cases dropMark digits with
  | case1 first second rest mark =>
      -- The second byte of a mark is no digit.
      obtain ⟨digit, good⟩ := isSome_digitValue?_of_mem read (.tail first (.head rest))
      rcases mark.2 with rfl | rfl
      · cases good
      · cases good
  | case2 => rfl
  | case3 => rfl

end Hex

/-! ## Texts of words -/

namespace Word

theorem parse_of_valueFrom {text : Bytes} {word : Word} (held : 0 < (Hex.dropMark text).length)
    (fits : (Hex.dropMark text).length ≤ 64)
    (read : Hex.valueFrom 0 (Hex.dropMark text) = some word.toNat) : parse text = .ok word := by
  obtain ⟨even, length⟩ := Hex.length_evened (Hex.dropMark text)
  rw [← Hex.valueFrom_evened] at read
  obtain ⟨fault, pairs, number⟩ := Hex.decode_of_valueFrom even read
  have short : (Hex.decode (Hex.evened (Hex.dropMark text))).bytes.length ≤ wordLength := by
    unfold wordLength
    omega
  have accepted : ¬((Hex.dropMark text).length = 0 ∨
      (Hex.dropMark text).length > 2 * wordLength) := by
    unfold wordLength
    omega
  simp only [parse, accepted, ↓reduceIte, fault, Except.ok.injEq]
  apply eq_of_toNat_eq
  rw [toNat_ofBytes short]
  exact number

/-- The texts that a word is written with: all digits, the shortest text, and the shortest digits
under a format verb, with or without the mark and in either case. -/
inductive Spelling where
  | full
  | short
  | verb (alternate upper : Bool)
  deriving DecidableEq, Repr

def Spelling.write (word : Word) : Spelling → Bytes
  | .full => word.hex
  | .short => word.text
  | .verb alternate upper => word.format alternate (if upper then 'X' else 'x')

inductive Carries (digits : Bytes) : Bytes → Prop where
  | marked : Carries digits (Hex.marked digits)
  | plain : Carries digits digits

theorem Carries.parse {digits text : Bytes} {word : Word} (carried : Carries digits text)
    (held : 0 < digits.length) (fits : digits.length ≤ 64)
    (read : Hex.valueFrom 0 digits = some word.toNat) : Word.parse text = .ok word := by
  cases carried with
  | marked => exact parse_of_valueFrom held fits read
  | plain =>
      have plain := Hex.dropMark_of_valueFrom read
      rw [← plain] at held fits read
      exact parse_of_valueFrom held fits read

theorem minimalDigits_eq (word : Word) : word.minimalDigits = Hex.minimal word.toNat := by
  rw [minimalDigits, toNat_toUInt256]

private theorem length_minimalDigits (word : Word) :
    0 < word.minimalDigits.length ∧ word.minimalDigits.length ≤ 64 := by
  rw [minimalDigits_eq]
  exact ⟨Hex.length_minimal_pos _, Hex.length_minimal_le (by decide) word.toNat_lt⟩

theorem valueFrom_minimalDigits (word : Word) :
    Hex.valueFrom 0 word.minimalDigits = some word.toNat := by
  rw [minimalDigits_eq, Hex.valueFrom_minimal]

private theorem format_verb (word : Word) (alternate upper : Bool) :
    ∃ digits, (digits = word.minimalDigits ∨ digits = word.minimalDigits.map Hex.upperDigit) ∧
      Carries digits (Spelling.write word (.verb alternate upper)) := by
  cases alternate <;> cases upper
  · exact ⟨_, .inl rfl, .plain⟩
  · exact ⟨_, .inr rfl, .plain⟩
  · exact ⟨_, .inl rfl, .marked⟩
  · exact ⟨_, .inr rfl, .marked⟩

theorem parse_write (word : Word) (spelling : Spelling) :
    parse (spelling.write word) = .ok word := by
  obtain ⟨held, fits⟩ := word.length_minimalDigits
  cases spelling with
  | full =>
      have digits : (Hex.padded 64 word.toNat).length = 64 := by
        rw [Hex.padded, ← minimalDigits_eq, List.length_append, List.length_replicate]
        omega
      rw [Spelling.write, hex_eq_marked_padded]
      exact Carries.marked.parse (by omega) (by omega) (Hex.valueFrom_padded 64 word.toNat)
  | short => exact Carries.marked.parse held fits word.valueFrom_minimalDigits
  | verb alternate upper =>
      obtain ⟨digits, rfl | rfl, carried⟩ := word.format_verb alternate upper
      · exact carried.parse held fits word.valueFrom_minimalDigits
      · rw [← List.length_map (f := Hex.upperDigit)] at held fits
        refine carried.parse held fits ?_
        rw [Hex.valueFrom_map_upperDigit, valueFrom_minimalDigits]

end Word

end OperandStack
