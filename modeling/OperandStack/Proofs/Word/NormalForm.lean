import OperandStack.Proofs.Hex.Readers

/-!
# Normal forms of hexadecimal texts

Writing and reading undo each other in both directions. Every text of a word, a digest or an address
is read as the value that it was written from. A text that is read as a word comes back in one of
two normal forms: in lower case with zeros up to 64 digits, or without the zeros in front. -/

set_option autoImplicit false

namespace OperandStack

/-! ## Case and leading zeros -/

namespace Hex

def lowerLetter (byte : UInt8) : UInt8 :=
  if 0x41 ≤ byte ∧ byte ≤ 0x5a then byte + 0x20 else byte

/-- Digits without the zeros in front; where nothing else is left, one zero is. -/
def trimmed (digits : Bytes) : Bytes :=
  match digits.dropWhile (· = 0x30) with
  | [] => [0x30]
  | first :: rest => first :: rest

private theorem lowerLetter_eq_digit {byte : UInt8} {value : Nat}
    (read : digitValue? byte = some value) :
    lowerLetter byte = digit value := by
  have all : ∀ code : Fin 256,
      (digitValue? (UInt8.ofNat code)).all fun value =>
        lowerLetter (UInt8.ofNat code) = digit value := by
    decide +kernel
  have here := all ⟨byte.toNat, byte.toNat_lt⟩
  rw [UInt8.ofNat_toNat, read] at here
  exact of_decide_eq_true here

private theorem map_lowerLetter_of_valueFrom {digits : Bytes} {number : Nat}
    (read : valueFrom 0 digits = some number) :
    digits.map lowerLetter = lowDigits digits.length number := by
  -- The low end of the number belongs to the last digit, so the digits are taken from there.
  induction digits using List.reverseRecOn generalizing number with
  | nil => rfl
  | append_singleton front byte ih =>
      rw [valueFrom_append] at read
      obtain ⟨high, readFront, readLast⟩ := Option.bind_eq_some_iff.mp read
      cases good : digitValue? byte with
      | none => simp only [valueFrom, good, reduceCtorEq] at readLast
      | some value =>
          have small := digitValue?_lt good
          simp only [valueFrom, good, Option.some.injEq] at readLast
          obtain ⟨quotient, remainder⟩ : number / 16 = high ∧ number % 16 = value := by omega
          simp only [List.map_append, List.map_cons, List.map_nil, List.length_append,
            List.length_cons, List.length_nil, lowDigits, quotient, remainder, ih readFront,
            lowerLetter_eq_digit good]

theorem Denotes.map_lowerLetter {digits : Bytes} {number : Nat} (denoted : Denotes digits number)
    (held : 0 < digits.length) : digits.map lowerLetter = padded digits.length number := by
  rw [padded_eq_lowDigits held denoted.lt]
  exact map_lowerLetter_of_valueFrom (valueFrom_zero_eq_some_iff.mpr denoted)

private theorem padded_of_le {narrow wide value : Nat} (short : (minimal value).length ≤ narrow)
    (within : narrow ≤ wide) :
    padded wide value = List.replicate (wide - narrow) 0x30 ++ padded narrow value := by
  have zeros : wide - (minimal value).length =
      (wide - narrow) + (narrow - (minimal value).length) := by omega
  simp only [padded, zeros, List.replicate_add, List.append_assoc]

private theorem head?_minimal_eq_zero_iff (value : Nat) :
    (minimal value).head? = some 0x30 ↔ value = 0 := by
  induction value using Nat.strongRecOn with
  | ind value ih =>
      by_cases small : value < 16
      · have all : ∀ nibble : Fin 16, digit nibble.val = 0x30 ↔ nibble.val = 0 := by
          decide
        simp only [minimal_of_lt small, List.head?_cons, Option.some.injEq]
        exact all ⟨value, small⟩
      · have front : minimal (value / 16) ≠ [] :=
          List.ne_nil_of_length_pos (length_minimal_pos _)
        have earlier := ih (value / 16) (by omega)
        rw [minimal_of_le (by omega), List.head?_append_of_ne_nil _ front, earlier]
        omega

private theorem minimal_zero : minimal 0 = [0x30] :=
  minimal_of_lt (by decide)

private theorem trimmed_zeros (count : Nat) (digits : Bytes) :
    trimmed (List.replicate count 0x30 ++ digits) = trimmed digits := by
  have dropped : (List.replicate count (0x30 : UInt8) ++ digits).dropWhile (· = 0x30) =
      digits.dropWhile (· = 0x30) := by
    apply List.dropWhile_append_of_pos
    intro byte member
    exact decide_eq_true (List.eq_of_mem_replicate member)
  rw [trimmed, trimmed, dropped]

private theorem trimmed_minimal (value : Nat) : trimmed (minimal value) = minimal value := by
  by_cases zero : value = 0
  · subst value
    rw [minimal_zero]
    rfl
  · have head := (head?_minimal_eq_zero_iff value).not.mpr zero
    cases digits : minimal value with
    | nil => exact absurd digits (List.ne_nil_of_length_pos (length_minimal_pos value))
    | cons first rest =>
        rw [digits, List.head?_cons, Option.some.injEq] at head
        simp only [trimmed, List.dropWhile_cons, head, decide_false, Bool.false_eq_true, ↓reduceIte]

private theorem trimmed_padded (width value : Nat) : trimmed (padded width value) = minimal value :=
  (trimmed_zeros _ _).trans (trimmed_minimal value)

/-! ## Digits of bytes -/

theorem denotes_encode (bytes : Bytes) : Denotes (encode bytes) (Bytes.toNat bytes) := by
  cases bytes with
  | nil => exact ⟨[], .nil, rfl⟩
  | cons first rest =>
      have held : 0 < (first :: rest).length := Nat.zero_lt_succ _
      rw [encode_eq_padded held, ← valueFrom_zero_eq_some_iff]
      exact valueFrom_padded _ _

private theorem length_encode (bytes : Bytes) : (encode bytes).length = 2 * bytes.length := by
  induction bytes with
  | nil => rfl
  | cons byte rest ih =>
      have split : encode (byte :: rest) = byteDigits byte ++ encode rest := rfl
      have pair : (byteDigits byte).length = 2 := rfl
      rw [split, List.length_append, List.length_cons, pair, ih]
      omega

theorem Unmarked.dropMark_eq {text digits : Bytes} (unmarked : Unmarked text digits) :
    dropMark text = digits := by
  cases unmarked with
  | lower => rfl
  | upper => rfl
  | plain noMark =>
      fun_cases dropMark text with
      | case1 first second rest mark =>
          obtain ⟨rfl, rfl | rfl⟩ := mark
          · exact absurd rfl (noMark rest).1
          · exact absurd rfl (noMark rest).2
      | case2 => rfl
      | case3 => rfl

end Hex

/-! ## Digests and addresses -/

theorem Hash.ofHex_hex (hash : Hash) : Hash.ofHex hash.hex = hash := by
  have denoted : Hex.Denotes (Hex.dropMark hash.hex) hash.toNat := Hex.denotes_encode _
  have bounded : hash.toNat < 256 ^ hash.bytes.toList.length := Bytes.toNat_lt _
  rw [hash.bytes.length_toList] at bounded
  apply Hash.eq_of_toNat_eq
  rw [Hash.toNat_ofHex denoted]
  exact Nat.mod_eq_of_lt bounded

namespace Address

private theorem parse_of_denotes {text : Bytes} {address : Address}
    (fits : (Hex.dropMark text).length ≤ 40)
    (denoted : Hex.Denotes (Hex.dropMark text) address.toNat) : parse text = .ok address := by
  have reading := reading_parse text
  cases answer : parse text with
  | ok other =>
      rw [answer] at reading
      cases reading with
      | number _ otherDenoted => rw [eq_of_toNat_eq (otherDenoted.unique denoted)]
  | error error =>
      rw [answer] at reading
      cases reading with
      | tooLong long => omega
      | badByte _ bad => exact absurd denoted.digits bad.not_digits

theorem parse_hex (address : Address) : parse address.hex = .ok address := by
  have length : (Hex.encode address.bytes.toList).length = 2 * addressLength := by
    rw [Hex.length_encode, address.bytes.length_toList]
  exact parse_of_denotes (Nat.le_of_eq length) (Hex.denotes_encode _)

theorem ofHex_hex (address : Address) : ofHex address.hex = address := by
  have denoted : Hex.Denotes (Hex.dropMark address.hex) address.toNat := Hex.denotes_encode _
  apply eq_of_toNat_eq
  rw [toNat_ofHex denoted]
  exact Nat.mod_eq_of_lt address.toNat_lt

end Address

/-! ## Words -/

namespace Word

private theorem format_x (word : Word) : word.format false 'x' = Hex.minimal word.toNat :=
  word.minimalDigits_eq

theorem text_eq_marked_minimal (word : Word) : word.text = Hex.marked (Hex.minimal word.toNat) := by
  rw [text, minimalDigits_eq]

private theorem toNat_eq_zero_iff (word : Word) : word.toNat = 0 ↔ word = zero := by
  have zeroNumber : zero.toNat = 0 := Bytes.toNat_replicate_zero wordLength
  constructor
  · intro none
    exact eq_of_toNat_eq (none.trans zeroNumber.symm)
  · rintro rfl
    exact zeroNumber

private theorem injective_of_parse {write : Word → Bytes}
    (undone : ∀ word, parse (write word) = .ok word) :
    Function.Injective write := by
  intro left right same
  have leftRead := undone left
  rw [same, undone right] at leftRead
  exact (Except.ok.inj leftRead).symm

private theorem texts_of_parse {text digits : Bytes} {word : Word}
    (unmarked : Hex.Unmarked text digits) (accepted : parse text = .ok word) :
    word.hex = Hex.marked
        (List.replicate (64 - digits.length) 0x30 ++ digits.map Hex.lowerLetter) ∧
      word.text = Hex.marked (Hex.trimmed (digits.map Hex.lowerLetter)) := by
  obtain ⟨held, fits, denoted⟩ := parse_eq_ok_iff.mp accepted
  rw [unmarked.dropMark_eq] at held fits denoted
  have short : (Hex.minimal word.toNat).length ≤ digits.length :=
    Hex.length_minimal_le held denoted.lt
  rw [denoted.map_lowerLetter held, ← Hex.padded_of_le short fits, Hex.trimmed_padded]
  exact ⟨word.hex_eq_marked_padded, word.text_eq_marked_minimal⟩

/-- Each of the eight texts of a word is read as that word, and the texts of digests and addresses
as those. The short texts of a word have a zero in front only for the zero word, which is that one
digit, and tell words apart. The texts of a word that was read are its digits in lower case: with
zeros in front up to 64 of them, and with none that can be left out. -/
theorem texts_round_trip :
    (∀ word : Word, ∀ text ∈ [word.hex, word.text, word.format false 'v', word.format false 's',
        word.format false 'x', word.format false 'X', word.format true 'x', word.format true 'X'],
      parse text = .ok word) ∧
    (∀ hash : Hash, Hash.ofHex hash.hex = hash) ∧
    (∀ address : Address,
      Address.parse address.hex = .ok address ∧ Address.ofHex address.hex = address) ∧
    (∀ word : Word, word.text = Hex.marked (word.format false 'x') ∧
      ((word.format false 'x').head? = some 0x30 ↔ word = zero)) ∧
    zero.format false 'x' = [0x30] ∧
    Function.Injective text ∧ (Function.Injective fun word : Word => word.format false 'x') ∧
    (∀ (text digits : Bytes) (word : Word), Hex.Unmarked text digits → parse text = .ok word →
      word.hex = Hex.marked
          (List.replicate (64 - digits.length) 0x30 ++ digits.map Hex.lowerLetter) ∧
        word.text = Hex.marked (Hex.trimmed (digits.map Hex.lowerLetter))) := by
  refine ⟨?_, Hash.ofHex_hex, ?_, ?_, ?_, ?_, ?_, ?_⟩
  · intro word text member
    have read := word.parse_write
    simp only [List.mem_cons, List.not_mem_nil, or_false] at member
    rcases member with rfl | rfl | rfl | rfl | rfl | rfl | rfl | rfl
    · exact read .full
    · exact read .short
    · exact read .short
    · exact read .short
    · exact read (.verb false false)
    · exact read (.verb false true)
    · exact read (.verb true false)
    · exact read (.verb true true)
  · intro address
    exact ⟨address.parse_hex, address.ofHex_hex⟩
  · intro word
    refine ⟨rfl, ?_⟩
    rw [format_x, Hex.head?_minimal_eq_zero_iff, toNat_eq_zero_iff]
  · rw [format_x, (toNat_eq_zero_iff zero).mpr rfl, Hex.minimal_zero]
  · exact injective_of_parse fun word => word.parse_write .short
  · exact injective_of_parse fun word => word.parse_write (.verb false false)
  · intro text digits word unmarked accepted
    exact texts_of_parse unmarked accepted

theorem texts_round_trip_odd_capitals :
    parse (ascii "0X00aB7") = .ok (ofUInt64 0xab7) ∧
      (ofUInt64 0xab7).hex = Hex.marked (List.replicate 59 0x30 ++ ascii "00ab7") ∧
      (ofUInt64 0xab7).text = ascii "0xab7" := by
  have accepted : parse (ascii "0X00aB7") = .ok (ofUInt64 0xab7) := by decide +kernel
  obtain ⟨_, _, _, _, _, _, _, normal⟩ := texts_round_trip
  obtain ⟨full, short⟩ := normal _ (ascii "00aB7") _ .upper accepted
  exact ⟨accepted, full, short⟩

end Word

end OperandStack
