import Mathlib.Data.Nat.Digits.Lemmas
import OperandStack.Proofs.Word.Spelling

/-!
# Hexadecimal numerals

The grammar of hexadecimal numerals beside their decoder: which bytes are digits and of what value,
which number digits denote, what stands behind a mark, and which byte of a text is its first that is
no digit. Decoding answers by that grammar alone. Only a text of odd length can be refused for its
length, so a text completed to an even one never is.
-/

set_option autoImplicit false

namespace OperandStack.Hex

/-! ## The grammar -/

def Digit (byte : UInt8) (value : Nat) : Prop :=
  (ascii "0123456789abcdef")[value]? = some byte ∨ (ascii "0123456789ABCDEF")[value]? = some byte

instance (byte : UInt8) (value : Nat) : Decidable (Digit byte value) :=
  inferInstanceAs (Decidable (_ ∨ _))

def IsDigit (byte : UInt8) : Prop :=
  ∃ value, Digit byte value

/-- The number that digits denote in base 16, most significant digit first. No digits denote
zero. -/
def Denotes (digits : Bytes) (number : Nat) : Prop :=
  ∃ values, List.Forall₂ Digit digits values ∧ number = Nat.ofDigits 16 values.reverse

/-- What remains of a text without its mark, `0x` or `0X`. A second mark stays. -/
inductive Unmarked : (text digits : Bytes) → Prop where
  | lower {digits} : Unmarked (0x30 :: 0x78 :: digits) digits
  | upper {digits} : Unmarked (0x30 :: 0x58 :: digits) digits
  | plain {text} :
      (∀ digits, text ≠ 0x30 :: 0x78 :: digits ∧ text ≠ 0x30 :: 0x58 :: digits) →
        Unmarked text text

inductive FirstBad : (text : Bytes) → (byte : UInt8) → Prop where
  | here {byte rest} : ¬IsDigit byte → FirstBad (byte :: rest) byte
  | later {first rest byte} : IsDigit first → FirstBad rest byte → FirstBad (first :: rest) byte

theorem unmarked_dropMark (text : Bytes) : Unmarked text (dropMark text) := by
  fun_cases dropMark text with
  | case1 first second digits mark =>
      obtain ⟨rfl, rfl | rfl⟩ := mark
      · exact .lower
      · exact .upper
  | case2 first second digits noMark =>
      apply Unmarked.plain
      intro rest
      constructor
      · rintro same
        cases same
        exact noMark ⟨rfl, .inl rfl⟩
      · rintro same
        cases same
        exact noMark ⟨rfl, .inr rfl⟩
  | case3 short noPair =>
      exact .plain fun digits => ⟨noPair _ _ digits, noPair _ _ digits⟩

theorem FirstBad.not_digits {text : Bytes} {byte : UInt8} (bad : FirstBad text byte) :
    ¬∀ other ∈ text, IsDigit other := by
  intro digits
  induction bad with
  | here noDigit => exact noDigit (digits _ (.head _))
  | later _ _ ih => exact ih fun other member => digits other (.tail _ member)

/-! ## Values of digits -/

theorem Digit.lt {byte : UInt8} {value : Nat} (digit : Digit byte value) : value < 16 := by
  rcases digit with found | found
  · exact (List.getElem?_eq_some_iff.mp found).1
  · exact (List.getElem?_eq_some_iff.mp found).1

theorem digitValue?_eq_some_iff {byte : UInt8} {value : Nat} :
    digitValue? byte = some value ↔ Digit byte value := by
  constructor
  · intro read
    have all : ∀ code : Fin 256,
        (digitValue? (UInt8.ofNat code)).all fun value => Digit (UInt8.ofNat code) value := by
      decide +kernel
    have here := all ⟨byte.toNat, byte.toNat_lt⟩
    rw [UInt8.ofNat_toNat, read] at here
    exact of_decide_eq_true here
  · intro digit
    have lower : ∀ place : Fin 16,
        ((ascii "0123456789abcdef")[place.val]?.bind digitValue?) = some place.val := by
      decide +kernel
    have upper : ∀ place : Fin 16,
        ((ascii "0123456789ABCDEF")[place.val]?.bind digitValue?) = some place.val := by
      decide +kernel
    have small := digit.lt
    rcases digit with found | found
    · simpa only [found, Option.bind_some] using lower ⟨value, small⟩
    · simpa only [found, Option.bind_some] using upper ⟨value, small⟩

theorem digitValue?_eq_none_iff {byte : UInt8} : digitValue? byte = none ↔ ¬IsDigit byte := by
  simp only [IsDigit, ← digitValue?_eq_some_iff, not_exists]
  exact Option.eq_none_iff_forall_ne_some

private theorem isDigit_of_digitValue? {byte : UInt8} {value : Nat}
    (read : digitValue? byte = some value) :
    IsDigit byte :=
  ⟨value, digitValue?_eq_some_iff.mp read⟩

/-! ## Numbers -/

private theorem valueFrom_eq_some_iff {start number : Nat} {digits : Bytes} :
    valueFrom start digits = some number ↔
      ∃ values, List.Forall₂ Digit digits values ∧
        number = start * 16 ^ digits.length + Nat.ofDigits 16 values.reverse := by
  induction digits generalizing start with
  | nil =>
      simp only [valueFrom, Option.some.injEq, List.forall₂_nil_left_iff, exists_eq_left,
        List.length_nil, Nat.pow_zero, Nat.mul_one, List.reverse_nil, Nat.ofDigits_nil,
        Nat.add_zero]
      exact eq_comm
  | cons byte rest ih =>
      have shift (value : Nat) (values : List Nat) (length : rest.length = values.length) :
          start * 16 ^ (rest.length + 1) + Nat.ofDigits 16 (value :: values).reverse =
            (start * 16 + value) * 16 ^ rest.length + Nat.ofDigits 16 values.reverse := by
        rw [List.reverse_cons, Nat.ofDigits_append, List.length_reverse, Nat.ofDigits_singleton,
          ← length]
        ring
      rw [valueFrom, List.length_cons]
      constructor
      · intro read
        cases digit : digitValue? byte with
        | none => simp only [digit, reduceCtorEq] at read
        | some value =>
            simp only [digit] at read
            obtain ⟨values, valued, rfl⟩ := ih.mp read
            exact ⟨value :: values, .cons (digitValue?_eq_some_iff.mp digit) valued,
              (shift value values valued.length_eq).symm⟩
      · rintro ⟨_, valued, rfl⟩
        cases valued with
        | @cons _ value _ values digit valuedRest =>
            simp only [digitValue?_eq_some_iff.mpr digit]
            exact ih.mpr ⟨values, valuedRest, shift value values valuedRest.length_eq⟩

theorem valueFrom_zero_eq_some_iff {digits : Bytes} {number : Nat} :
    valueFrom 0 digits = some number ↔ Denotes digits number := by
  simp only [valueFrom_eq_some_iff, Denotes, Nat.zero_mul, Nat.zero_add]

theorem Denotes.digits {digits : Bytes} {number : Nat} (denoted : Denotes digits number) :
    ∀ byte ∈ digits, IsDigit byte := by
  intro byte member
  obtain ⟨value, read⟩ :=
    isSome_digitValue?_of_mem (valueFrom_zero_eq_some_iff.mpr denoted) member
  exact isDigit_of_digitValue? read

theorem Denotes.unique {digits : Bytes} {left right : Nat} (first : Denotes digits left)
    (second : Denotes digits right) : left = right := by
  rw [← valueFrom_zero_eq_some_iff] at first second
  exact Option.some.inj (first.symm.trans second)

theorem exists_denotes {digits : Bytes} (all : ∀ byte ∈ digits, IsDigit byte) :
    ∃ number, Denotes digits number := by
  suffices ∃ values, List.Forall₂ Digit digits values by
    obtain ⟨values, valued⟩ := this
    exact ⟨_, values, valued, rfl⟩
  induction digits with
  | nil => exact ⟨[], .nil⟩
  | cons byte rest ih =>
      obtain ⟨⟨value, digit⟩, digits⟩ := List.forall_mem_cons.mp all
      obtain ⟨values, valued⟩ := ih digits
      exact ⟨value :: values, .cons digit valued⟩

theorem Denotes.lt {digits : Bytes} {number : Nat} (denoted : Denotes digits number) :
    number < 16 ^ digits.length := by
  obtain ⟨values, valued, rfl⟩ := denoted
  have small : ∀ value ∈ values, value < 16 := by
    induction valued with
    | nil => exact List.forall_mem_nil _
    | cons digit _ ih => exact List.forall_mem_cons.mpr ⟨digit.lt, ih⟩
  have bounded := Nat.ofDigits_lt_base_pow_length (by decide : 1 < 16)
    fun value member => small value (List.mem_reverse.mp member)
  rwa [List.length_reverse, ← valued.length_eq] at bounded

/-! ## Decoding -/

/-- What the grammar says on a text that is to be cut into digit pairs. -/
inductive Judged (text : Bytes) : Option DecodeError → Prop where
  | pairs : text.length % 2 = 0 → (∀ byte ∈ text, IsDigit byte) → Judged text none
  | odd : text.length % 2 = 1 → (∀ byte ∈ text, IsDigit byte) → Judged text (some .oddLength)
  | bad {byte} : FirstBad text byte → Judged text (some (.badByte byte))

theorem judged_decode (text : Bytes) : Judged text (decode text).fault := by
  fun_induction decode text with
  | case1 => exact .pairs rfl (List.forall_mem_nil _)
  | case2 last bad => exact .bad (.here (digitValue?_eq_none_iff.mp bad))
  | case3 last value good =>
      exact .odd rfl (List.forall_mem_singleton.mpr (isDigit_of_digitValue? good))
  | case4 high low rest bad => exact .bad (.here (digitValue?_eq_none_iff.mp bad))
  | case5 high low rest value good bad =>
      exact .bad (.later (isDigit_of_digitValue? good) (.here (digitValue?_eq_none_iff.mp bad)))
  | case6 high low rest highValue good lowValue goodLow tail =>
      rename_i ih
      have highDigit := isDigit_of_digitValue? good
      have lowDigit := isDigit_of_digitValue? goodLow
      dsimp only [tail]
      cases fault : (decode rest).fault with
      | none =>
          rw [fault] at ih
          cases ih with
          | pairs even digits =>
              refine .pairs ?_ (List.forall_mem_cons.mpr ⟨highDigit,
                List.forall_mem_cons.mpr ⟨lowDigit, digits⟩⟩)
              rw [List.length_cons, List.length_cons]
              omega
      | some error =>
          rw [fault] at ih
          cases ih with
          | odd odd digits =>
              refine .odd ?_ (List.forall_mem_cons.mpr ⟨highDigit,
                List.forall_mem_cons.mpr ⟨lowDigit, digits⟩⟩)
              rw [List.length_cons, List.length_cons]
              omega
          | bad bad => exact .bad (.later highDigit (.later lowDigit bad))

end OperandStack.Hex
