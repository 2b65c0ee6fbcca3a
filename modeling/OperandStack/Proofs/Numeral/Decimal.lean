import Mathlib.Algebra.Ring.Int.Defs
import Mathlib.Algebra.Ring.Nat
import OperandStack.Numeral

/-!
# Decimal numerals

The grammar of decimal numerals beside their readers. A numeral is read exactly if it is one of the
grammar and its number fits, whatever the reader notices first on the others.
-/

set_option autoImplicit false

namespace OperandStack.Numeral

/-! ## The grammar -/

def decimalFrom (start : Nat) (text : Bytes) : Nat :=
  text.foldl (fun before byte => before * 10 + (byte.toNat - 0x30)) start

/-- One or more decimal digits and the number that they denote; leading zeros are allowed. -/
structure Decimal (text : Bytes) (value : Nat) : Prop where
  nonempty : text ≠ []
  digits : ∀ byte ∈ text, 0x30 ≤ byte ∧ byte ≤ 0x39
  value : value = decimalFrom 0 text

inductive SignedDecimal : Bytes → Int → Prop where
  | plain {digits value} : Decimal digits value → SignedDecimal digits value
  | plus {digits value} : Decimal digits value → SignedDecimal (0x2b :: digits) value
  | minus {digits value} : Decimal digits value → SignedDecimal (0x2d :: digits) (-value)

/-! ## Digits -/

private theorem digitValue?_of_decimal {byte : UInt8} (digit : 0x30 ≤ byte ∧ byte ≤ 0x39) :
    digitValue? byte = some (byte.toNat - 0x30) ∧ byte.toNat - 0x30 < 10 := by
  obtain ⟨low, high⟩ := digit
  refine ⟨by simp only [digitValue?, low, high, and_self, ↓reduceIte], ?_⟩
  have bound := UInt8.le_iff_toNat_le.mp high
  simp only [UInt8.reduceToNat] at bound
  omega

private theorem decimal_of_digitValue? {byte : UInt8} {value : Nat}
    (read : digitValue? byte = some value) (small : value < 10) : 0x30 ≤ byte ∧ byte ≤ 0x39 := by
  unfold digitValue? at read
  split at read
  · next digit => exact digit
  · -- A letter counts at least ten.
    split at read
    · cases read
      omega
    · split at read
      · cases read
        omega
      · cases read

private theorem decimalFrom_cons (start : Nat) (byte : UInt8) (rest : Bytes) :
    decimalFrom start (byte :: rest) = decimalFrom (start * 10 + (byte.toNat - 0x30)) rest := by
  rw [decimalFrom, decimalFrom, List.foldl_cons]

private theorem le_decimalFrom (start : Nat) (text : Bytes) : start ≤ decimalFrom start text := by
  induction text generalizing start with
  | nil => exact Nat.le_refl _
  | cons byte rest ih =>
      rw [decimalFrom_cons]
      have later := ih (start * 10 + (byte.toNat - 0x30))
      omega

/-- Reading goes on exactly over digits, as long as the number stays below 2^64. The number only
grows, so it is enough to look at the end. -/
theorem readDigits_eq_ok_iff {start value : Nat} {text : Bytes} (fits : start < UInt64.size) :
    readDigits 10 start text = .ok value ↔
      (∀ byte ∈ text, 0x30 ≤ byte ∧ byte ≤ 0x39) ∧
        value = decimalFrom start text ∧ value < UInt64.size := by
  induction text generalizing start with
  | nil =>
      simp only [readDigits, Except.ok.injEq, List.not_mem_nil, false_implies, implies_true,
        true_and]
      constructor
      · rintro rfl
        exact ⟨rfl, fits⟩
      · rintro ⟨rfl, _⟩
        rfl
  | cons byte rest ih =>
      rw [List.forall_mem_cons, decimalFrom_cons, readDigits]
      constructor
      · intro read
        cases valued : digitValue? byte with
        | none => simp only [valued, reduceCtorEq] at read
        | some digit =>
            simp only [valued] at read
            split at read
            · next small =>
                have decimal := decimal_of_digitValue? valued small
                rw [(digitValue?_of_decimal decimal).1] at valued
                cases valued
                split at read
                · next stillFits =>
                    obtain ⟨digits, total, bounded⟩ := (ih stillFits).mp read
                    exact ⟨⟨decimal, digits⟩, total, bounded⟩
                · cases read
            · cases read
      · rintro ⟨⟨decimal, digits⟩, total, bounded⟩
        obtain ⟨valued, small⟩ := digitValue?_of_decimal decimal
        have stillFits : start * 10 + (byte.toNat - 0x30) < UInt64.size := by
          rw [total] at bounded
          exact Nat.lt_of_le_of_lt (le_decimalFrom _ rest) bounded
        simp only [valued, small, stillFits, ↓reduceIte]
        exact (ih stillFits).mpr ⟨digits, total, bounded⟩

theorem readMagnitude_eq_ok_iff {text : Bytes} {value : Nat} :
    readMagnitude 10 text = .ok value ↔ Decimal text value ∧ value < UInt64.size := by
  rw [readMagnitude]
  cases text with
  | nil =>
      simp only [List.isEmpty_nil, ↓reduceIte, reduceCtorEq, false_iff, not_and]
      intro decimal
      exact absurd rfl decimal.nonempty
  | cons first rest =>
      simp only [List.isEmpty_cons, Bool.false_eq_true, ↓reduceIte]
      rw [readDigits_eq_ok_iff (by decide)]
      constructor
      · rintro ⟨digits, total, bounded⟩
        exact ⟨⟨by simp, digits, total⟩, bounded⟩
      · rintro ⟨⟨_, digits, total⟩, bounded⟩
        exact ⟨digits, total, bounded⟩

/-! ## The readers -/

theorem readUnsigned_eq_ok_iff {text : Bytes} {size : UInt64} :
    readUnsigned text = .ok size ↔
      ∃ value, Decimal text value ∧ value ≤ 2 ^ 64 - 1 ∧ size = UInt64.ofNat value := by
  rw [readUnsigned]
  constructor
  · intro read
    cases magnitude : readMagnitude 10 text with
    | error fault =>
        rw [magnitude] at read
        cases read
    | ok value =>
        rw [magnitude] at read
        obtain ⟨decimal, bounded⟩ := readMagnitude_eq_ok_iff.mp magnitude
        cases read
        exact ⟨value, decimal, Nat.le_sub_one_of_lt bounded, rfl⟩
  · rintro ⟨value, decimal, bounded, rfl⟩
    rw [readMagnitude_eq_ok_iff.mpr ⟨decimal, by unfold UInt64.size; omega⟩]
    rfl

private theorem withSign_eq_ok_iff {negative : Bool} {magnitude : Nat} {value : Int} :
    withSign negative magnitude = .ok value ↔
      value = (if negative then -(magnitude : Int) else magnitude) ∧
        -2 ^ 63 ≤ value ∧ value ≤ 2 ^ 63 - 1 := by
  have half : UInt64.size / 2 = 2 ^ 63 := by decide
  unfold withSign
  rw [half]
  cases negative with
  | true =>
      by_cases fits : magnitude ≤ 2 ^ 63
      · simp only [fits, ↓reduceIte, Except.ok.injEq]
        constructor
        · rintro rfl
          exact ⟨rfl, by omega, by omega⟩
        · rintro ⟨rfl, _⟩
          rfl
      · simp only [fits, ↓reduceIte, reduceCtorEq, false_iff]
        omega
  | false =>
      by_cases fits : magnitude < 2 ^ 63
      · simp only [fits, ↓reduceIte, Bool.false_eq_true, Except.ok.injEq]
        constructor
        · rintro rfl
          exact ⟨rfl, by omega, by omega⟩
        · rintro ⟨rfl, _⟩
          rfl
      · simp only [fits, ↓reduceIte, Bool.false_eq_true, reduceCtorEq, false_iff]
        omega

private theorem readSigned_eq_split (text : Bytes) :
    readSigned text =
      match readMagnitude 10 (splitSign text).2 with
      | .error fault => .error fault
      | .ok magnitude => withSign (splitSign text).1 magnitude := by
  simp only [readSigned, bind, Except.bind]
  cases readMagnitude 10 (splitSign text).2 <;> rfl

private theorem splitSign_of_decimal {text : Bytes} {value : Nat} (decimal : Decimal text value) :
    splitSign text = (false, text) := by
  cases text with
  | nil => rfl
  | cons first rest =>
      obtain ⟨low, _⟩ := decimal.digits first List.mem_cons_self
      have noPlus : first ≠ 0x2b := by
        rintro rfl
        exact absurd low (by decide)
      have noMinus : first ≠ 0x2d := by
        rintro rfl
        exact absurd low (by decide)
      simp only [splitSign, noPlus, noMinus, ↓reduceIte]

private theorem signedDecimal_iff {text : Bytes} {value : Int} :
    SignedDecimal text value ↔
      ∃ magnitude, Decimal (splitSign text).2 magnitude ∧
        value = if (splitSign text).1 then -(magnitude : Int) else magnitude := by
  constructor
  · intro signed
    cases signed with
    | plain decimal => exact ⟨_, by rwa [splitSign_of_decimal decimal], by
        rw [splitSign_of_decimal decimal]; rfl⟩
    | plus decimal => exact ⟨_, decimal, rfl⟩
    | minus decimal => exact ⟨_, decimal, rfl⟩
  · rintro ⟨magnitude, decimal, rfl⟩
    cases text with
    | nil => exact absurd rfl decimal.nonempty
    | cons first rest =>
        by_cases plus : first = 0x2b
        · subst first
          exact .plus decimal
        · by_cases minus : first = 0x2d
          · subst first
            exact .minus decimal
          · simp only [splitSign, plus, minus, ↓reduceIte, Bool.false_eq_true] at decimal ⊢
            exact .plain decimal

theorem readSigned_eq_ok_iff {text : Bytes} {value : Int} :
    readSigned text = .ok value ↔
      SignedDecimal text value ∧ -2 ^ 63 ≤ value ∧ value ≤ 2 ^ 63 - 1 := by
  rw [readSigned_eq_split, signedDecimal_iff]
  constructor
  · intro read
    cases magnitude : readMagnitude 10 (splitSign text).2 with
    | error fault =>
        rw [magnitude] at read
        cases read
    | ok number =>
        rw [magnitude] at read
        obtain ⟨signed, bounds⟩ := withSign_eq_ok_iff.mp read
        exact ⟨⟨number, (readMagnitude_eq_ok_iff.mp magnitude).1, signed⟩, bounds⟩
  · rintro ⟨⟨number, decimal, signed⟩, bounds⟩
    have fits : number < UInt64.size := by
      unfold UInt64.size
      split at signed <;> omega
    rw [readMagnitude_eq_ok_iff.mpr ⟨decimal, fits⟩]
    exact withSign_eq_ok_iff.mpr ⟨signed, bounds⟩

end OperandStack.Numeral
