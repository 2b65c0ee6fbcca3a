import Mathlib.Data.List.TakeWhile
import OperandStack.Proofs.Hex.Readers

/-!
# Lenient reading of bad texts

A lenient reader does not refuse a text with a bad byte and does not give the zero value for it
either: it keeps the bytes that were decoded before the fault. Pairs of digits are counted from the
end of the text, since a missing digit is added in front. So the digits before the first bad byte
count, without the last of them if the bad byte stands in its pair.
-/

set_option autoImplicit false

namespace OperandStack

namespace Hex

instance : DecidablePred IsDigit := fun byte =>
  decidable_of_iff ((digitValue? byte).isSome = true) <| by
    simp only [IsDigit, ← digitValue?_eq_some_iff, Option.isSome_iff_exists]

/-- What a lenient reader uses of a text without its mark: the digits before the first bad byte, and
all but one of these if an even number of bytes follows that byte. -/
def salvaged (digits : Bytes) : Bytes :=
  let good := digits.takeWhile (IsDigit ·)
  if (digits.length - good.length) % 2 = 1 then good.dropLast else good

private theorem digits_salvaged (digits : Bytes) : ∀ byte ∈ salvaged digits, IsDigit byte := by
  intro byte member
  have taken : byte ∈ digits.takeWhile (IsDigit ·) := by
    unfold salvaged at member
    dsimp only at member
    split at member
    · exact List.mem_of_mem_dropLast member
    · exact member
  simpa using List.mem_takeWhile_imp taken

/-! ## Decoding up to a bad pair -/

private theorem evened_append (front : Bytes) {back : Bytes} (even : back.length % 2 = 0) :
    evened (front ++ back) = evened front ++ back := by
  have parity : (front ++ back).length % 2 = front.length % 2 := by
    rw [List.length_append]
    omega
  unfold evened
  rw [parity]
  split
  · rfl
  · rfl

private theorem bytes_decode_append {front : Bytes} (digits : ∀ byte ∈ front, IsDigit byte)
    (even : front.length % 2 = 0) (back : Bytes) :
    (decode (front ++ back)).bytes = (decode front).bytes ++ (decode back).bytes := by
  fun_induction decode front with
  | case1 => rfl
  | case2 => cases even
  | case3 => cases even
  | case4 high low rest bad =>
      exact absurd (digits high (by simp)) (digitValue?_eq_none_iff.mp bad)
  | case5 high low rest value good bad =>
      exact absurd (digits low (by simp)) (digitValue?_eq_none_iff.mp bad)
  | case6 high low rest highValue good lowValue goodLow tail ih =>
      have evenRest : rest.length % 2 = 0 := by
        rw [List.length_cons, List.length_cons] at even
        omega
      have later := ih (fun byte member => digits byte (by simp [member])) evenRest
      simp only [List.cons_append, decode, good, goodLow, later, tail]

private theorem bytes_decode_of_bad_pair {high low : UInt8} (bad : ¬IsDigit high ∨ ¬IsDigit low)
    (rest : Bytes) : (decode (high :: low :: rest)).bytes = [] := by
  simp only [← digitValue?_eq_none_iff] at bad
  cases first : digitValue? high with
  | none => simp only [decode, first]
  | some value =>
      have second : digitValue? low = none := by simpa [first] using bad
      simp only [decode, first, second]

private theorem bytes_decode_before_bad_pair {front rest : Bytes} {high low : UInt8}
    (digits : ∀ byte ∈ front, IsDigit byte) (bad : ¬IsDigit high ∨ ¬IsDigit low)
    (even : rest.length % 2 = 0) :
    (decode (evened (front ++ high :: low :: rest))).bytes = (decode (evened front)).bytes := by
  have digitsEvened : ∀ byte ∈ evened front, IsDigit byte := by
    unfold evened
    split
    · exact List.forall_mem_cons.mpr ⟨isDigit_zero, digits⟩
    · exact digits
  have evenBack : (high :: low :: rest).length % 2 = 0 := by
    rw [List.length_cons, List.length_cons]
    omega
  rw [evened_append front evenBack,
    bytes_decode_append digitsEvened (length_evened front).1, bytes_decode_of_bad_pair bad,
    List.append_nil]

private theorem salvaged_of_split {good rest : Bytes} {byte : UInt8}
    (digits : ∀ digit ∈ good, IsDigit digit) (bad : ¬IsDigit byte) :
    salvaged (good ++ byte :: rest) = if rest.length % 2 = 0 then good.dropLast else good := by
  have taken : (good ++ byte :: rest).takeWhile (IsDigit ·) = good := by
    rw [List.takeWhile_append_of_pos (by simpa using digits)]
    simp [bad]
  have parity : ((good ++ byte :: rest).length - good.length) % 2 = 1 ↔ rest.length % 2 = 0 := by
    rw [List.length_append, List.length_cons]
    omega
  unfold salvaged
  dsimp only
  rw [taken]
  simp only [parity]

private theorem digits_or_split (digits : Bytes) :
    (∀ byte ∈ digits, IsDigit byte) ∨
      ∃ good byte rest, digits = good ++ byte :: rest ∧ (∀ digit ∈ good, IsDigit digit) ∧
        ¬IsDigit byte := by
  induction digits with
  | nil => exact .inl (List.forall_mem_nil _)
  | cons first rest ih =>
      by_cases digit : IsDigit first
      · rcases ih with all | ⟨good, byte, later, split, before, bad⟩
        · exact .inl (List.forall_mem_cons.mpr ⟨digit, all⟩)
        · exact .inr ⟨first :: good, byte, later, congrArg (first :: ·) split,
            List.forall_mem_cons.mpr ⟨digit, before⟩, bad⟩
      · exact .inr ⟨[], first, rest, rfl, List.forall_mem_nil _, digit⟩

theorem bytes_decode_salvaged (digits : Bytes) :
    (decode (evened digits)).bytes = (decode (evened (salvaged digits))).bytes := by
  rcases digits_or_split digits with all | ⟨good, byte, rest, rfl, before, bad⟩
  · have whole : digits.takeWhile (IsDigit ·) = digits :=
      List.takeWhile_eq_self_iff.mpr (by simpa using all)
    simp [salvaged, whole]
  · rw [salvaged_of_split before bad]
    by_cases even : rest.length % 2 = 0
    · rw [if_pos even]
      rcases List.eq_nil_or_concat good with rfl | ⟨front, last, rfl⟩
      · -- The bad byte is alone, and its partner is the zero that was added.
        have odd : (byte :: rest).length % 2 = 1 := by
          rw [List.length_cons]
          omega
        rw [List.nil_append, evened, if_pos odd, bytes_decode_of_bad_pair (.inr bad)]
        rfl
      · rw [List.concat_eq_append, List.dropLast_concat, List.append_assoc]
        exact bytes_decode_before_bad_pair
          (fun digit member => before digit (by simp [member])) (.inr bad) even
    · rw [if_neg even]
      cases rest with
      | nil => exact absurd rfl even
      | cons low more =>
          refine bytes_decode_before_bad_pair before (.inl bad) ?_
          rw [List.length_cons] at even
          omega

end Hex

/-! ## Values of bad texts -/

theorem FixedBytes.eq_zero_iff {width : Nat} (value : FixedBytes width) :
    value = zero width ↔ value.toNat = 0 := by
  have none : (zero width).toNat = 0 := Bytes.toNat_replicate_zero width
  constructor
  · intro same
    rw [same, none]
  · intro nothing
    exact eq_of_toNat_eq (nothing.trans none.symm)

theorem Hash.eq_zero_iff (hash : Hash) : hash = zero ↔ hash.toNat = 0 := by
  rw [Hash.ext_iff]
  exact hash.bytes.eq_zero_iff

theorem Address.eq_zero_iff (address : Address) : address = zero ↔ address.toNat = 0 := by
  rw [Address.ext_iff]
  exact address.bytes.eq_zero_iff

/-- The lenient readers give the number of the salvaged digits, reduced to their width, whatever
else the text holds. So a text with a bad byte gives zero exactly if that number vanishes in the
width, and not because the byte is bad. -/
theorem lenient_readers_salvage (text : Bytes) :
    ∃ number, Hex.Denotes (Hex.salvaged (Hex.dropMark text)) number ∧
      (Hash.ofHex text).toNat = number % 2 ^ 256 ∧
      (Address.ofHex text).toNat = number % 2 ^ 160 ∧
      (Hash.ofHex text = .zero ↔ 2 ^ 256 ∣ number) ∧
      (Address.ofHex text = .zero ↔ 2 ^ 160 ∣ number) := by
  obtain ⟨number, denoted⟩ := Hex.exists_denotes (Hex.digits_salvaged (Hex.dropMark text))
  have decoded : Bytes.toNat (Hex.decodeLenient text) = number := by
    rw [Hex.decodeLenient, Hex.bytes_decode_salvaged, Hex.toNat_decode_evened denoted]
  have hash : (Hash.ofHex text).toNat = number % 2 ^ 256 := by
    rw [Hash.ofHex, Hash.toNat_ofBytes, decoded]
  have address : (Address.ofHex text).toNat = number % 2 ^ 160 := by
    rw [Address.ofHex, Address.toNat_ofBytes, decoded]
  refine ⟨number, denoted, hash, address, ?_, ?_⟩
  · rw [Hash.eq_zero_iff, hash, Nat.dvd_iff_mod_eq_zero]
  · rw [Address.eq_zero_iff, address, Nat.dvd_iff_mod_eq_zero]

/-- Neither reader gives zero for a bad pair behind a good one. -/
theorem lenient_readers_keep_good_pair :
    (∃ byte ∈ Hex.dropMark (ascii "0x12zz"), ¬Hex.IsDigit byte) ∧
      Hash.ofHex (ascii "0x12zz") = Hash.ofBytes [0x12] ∧ Hash.ofBytes [0x12] ≠ .zero ∧
      Address.ofHex (ascii "0x12zz") = Address.ofBytes [0x12] ∧
      Address.ofBytes [0x12] ≠ .zero := by
  exact ⟨⟨0x7a, by decide, by decide⟩, by decide, by decide, by decide, by decide⟩

end OperandStack
