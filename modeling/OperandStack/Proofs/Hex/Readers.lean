import OperandStack.Proofs.Hex.Numeral
import OperandStack.Proofs.Word.Integer
import OperandStack.Word.Error

/-!
# Readers of hexadecimal texts

Words and addresses are read strictly, digests and addresses also leniently. `Word.Reading` and
`Address.Reading` say by the grammar what a strict reader answers to the digits behind the mark:
the number that they denote, or the one reason to refuse them. All readers agree wherever they give
a value, since each of them gives the number of the digits, reduced to its own width.
-/

set_option autoImplicit false

namespace OperandStack

/-- An answer as the pair that a caller receives: a refusal comes with the zero value. -/
def received {Error Value : Type} (zero : Value) : Except Error Value → Value × Option Error
  | .ok value => (value, none)
  | .error error => (zero, some error)

/-! ## Digits completed to an even number -/

namespace Hex

theorem isDigit_zero : IsDigit 0x30 :=
  ⟨0, by decide⟩

private theorem FirstBad.of_evened {digits : Bytes} {byte : UInt8}
    (bad : FirstBad (evened digits) byte) :
    FirstBad digits byte := by
  unfold evened at bad
  split at bad
  · cases bad with
    | here noDigit => exact absurd isDigit_zero noDigit
    | later _ badRest => exact badRest
  · exact bad

private theorem digits_of_evened {digits : Bytes} (all : ∀ byte ∈ evened digits, IsDigit byte) :
    ∀ byte ∈ digits, IsDigit byte := by
  unfold evened at all
  split at all
  · exact (List.forall_mem_cons.mp all).2
  · exact all

private theorem fault_decode_evened (digits : Bytes) :
    ((decode (evened digits)).fault = none ∧ ∀ byte ∈ digits, IsDigit byte) ∨
      ∃ byte, (decode (evened digits)).fault = some (.badByte byte) ∧ FirstBad digits byte := by
  have judged := judged_decode (evened digits)
  cases fault : (decode (evened digits)).fault with
  | none =>
      rw [fault] at judged
      cases judged with
      | pairs _ all => exact .inl ⟨rfl, digits_of_evened all⟩
  | some error =>
      rw [fault] at judged
      cases judged with
      | odd odd _ =>
          have even := (length_evened digits).1
          omega
      | bad bad => exact .inr ⟨_, rfl, bad.of_evened⟩

theorem toNat_decode_evened {digits : Bytes} {number : Nat} (denoted : Denotes digits number) :
    Bytes.toNat (decode (evened digits)).bytes = number := by
  rw [← valueFrom_zero_eq_some_iff, ← valueFrom_evened] at denoted
  obtain ⟨_, _, total⟩ := decode_of_valueFrom (length_evened digits).1 denoted
  exact total

private theorem toNat_ofBytes_decode {digits : Bytes} {number width : Nat}
    (denoted : Denotes digits number) (fits : digits.length ≤ 2 * width) :
    (FixedBytes.ofBytes width (decode (evened digits)).bytes).toNat = number := by
  have bounded : number < 256 ^ width :=
    calc
      number < 16 ^ digits.length := denoted.lt
      _ ≤ 16 ^ (2 * width) := Nat.pow_le_pow_right (by decide) fits
      _ = 256 ^ width := Nat.pow_mul 16 2 width
  rw [FixedBytes.toNat_ofBytes, toNat_decode_evened denoted, Nat.mod_eq_of_lt bounded]

end Hex

/-! ## Strict reading of words -/

namespace Word

/-- The answer to the digits of a word. -/
inductive Reading (digits : Bytes) : Except HexError Word → Prop where
  | number {word} : 1 ≤ digits.length → digits.length ≤ 64 → Hex.Denotes digits word.toNat →
      Reading digits (.ok word)
  | badLength : digits.length = 0 ∨ 64 < digits.length →
      Reading digits (.error (.badLength digits))
  | badByte {byte} : 1 ≤ digits.length → digits.length ≤ 64 → Hex.FirstBad digits byte →
      Reading digits (.error (.badDigits (.badByte byte)))

theorem reading_parse (text : Bytes) : Reading (Hex.dropMark text) (parse text) := by
  unfold parse wordLength
  dsimp only
  by_cases outside : (Hex.dropMark text).length = 0 ∨ (Hex.dropMark text).length > 2 * 32
  · rw [if_pos outside]
    exact .badLength outside
  · have held : 1 ≤ (Hex.dropMark text).length := by omega
    have fits : (Hex.dropMark text).length ≤ 64 := by omega
    rw [if_neg outside]
    rcases Hex.fault_decode_evened (Hex.dropMark text) with ⟨whole, digits⟩ | ⟨byte, fault, bad⟩
    · obtain ⟨number, denoted⟩ := Hex.exists_denotes digits
      have read : (ofBytes (Hex.decode (Hex.evened (Hex.dropMark text))).bytes).toNat = number :=
        Hex.toNat_ofBytes_decode denoted fits
      rw [whole]
      exact .number held fits (read ▸ denoted)
    · rw [fault]
      exact .badByte held fits bad

variable {digits : Bytes} {answer : Except HexError Word}

theorem Reading.accepted_iff (reading : Reading digits answer) :
    (received zero answer).2 = none ↔
      1 ≤ digits.length ∧ digits.length ≤ 64 ∧ ∀ byte ∈ digits, Hex.IsDigit byte := by
  cases reading with
  | number held fits denoted => exact ⟨fun _ => ⟨held, fits, denoted.digits⟩, fun _ => rfl⟩
  | badLength outside =>
      refine ⟨nofun, fun ⟨held, fits, _⟩ => ?_⟩
      omega
  | badByte held fits bad =>
      exact ⟨nofun, fun ⟨_, _, digits⟩ => absurd digits bad.not_digits⟩

theorem Reading.denotes (reading : Reading digits answer)
    (accepted : (received zero answer).2 = none) :
    Hex.Denotes digits (received zero answer).1.toNat := by
  cases reading with
  | number held fits denoted => exact denoted
  | badLength outside => cases accepted
  | badByte held fits bad => cases accepted

theorem Reading.refused (reading : Reading digits answer) {error : HexError}
    (failed : (received zero answer).2 = some error) :
    (received zero answer).1 = zero ∧
      (1 ≤ digits.length → digits.length ≤ 64 → ∃ byte, Hex.FirstBad digits byte ∧
        error = .badDigits (.badByte byte)) := by
  cases reading with
  | number held fits denoted => cases failed
  | badLength outside =>
      refine ⟨rfl, fun held fits => ?_⟩
      omega
  | badByte held fits bad =>
      cases failed
      exact ⟨rfl, fun _ _ => ⟨_, bad, rfl⟩⟩

private theorem message_badByte (byte : UInt8) :
    (HexError.badDigits (.badByte byte)).message =
      ascii "evm: invalid word hex: encoding/hex: invalid byte: " ++ Hex.codePoint byte := by
  have text : ascii "evm: invalid word hex: encoding/hex: invalid byte: " =
      ascii "evm: invalid word hex" ++ ascii ": " ++ ascii "encoding/hex: invalid byte: " := by
    decide
  rw [text, List.append_assoc]
  rfl

theorem parse_eq_ok_iff {text : Bytes} {word : Word} :
    parse text = .ok word ↔ 1 ≤ (Hex.dropMark text).length ∧ (Hex.dropMark text).length ≤ 64 ∧
      Hex.Denotes (Hex.dropMark text) word.toNat := by
  constructor
  · intro accepted
    have reading := reading_parse text
    rw [accepted] at reading
    cases reading with
    | number held fits denoted => exact ⟨held, fits, denoted⟩
  · rintro ⟨held, fits, denoted⟩
    exact parse_of_valueFrom held fits (Hex.valueFrom_zero_eq_some_iff.mpr denoted)

end Word

/-! ## Strict reading of addresses -/

namespace Address

/-- The answer to the digits of an address. A refusal shows them as they were decoded. -/
inductive Reading (digits : Bytes) : Except ParseError Address → Prop where
  | number {address} : digits.length ≤ 40 → Hex.Denotes digits address.toNat →
      Reading digits (.ok address)
  | tooLong : 40 < digits.length → Reading digits (.error (.tooLong digits))
  | badByte {byte} : digits.length ≤ 40 → Hex.FirstBad digits byte →
      Reading digits (.error (.badDigits (Hex.evened digits) (.badByte byte)))

theorem reading_parse (text : Bytes) : Reading (Hex.dropMark text) (parse text) := by
  unfold parse addressLength
  dsimp only
  by_cases long : (Hex.dropMark text).length > 2 * 20
  · rw [if_pos long]
    exact .tooLong long
  · have fits : (Hex.dropMark text).length ≤ 40 := by omega
    rw [if_neg long]
    rcases Hex.fault_decode_evened (Hex.dropMark text) with ⟨whole, digits⟩ | ⟨byte, fault, bad⟩
    · obtain ⟨number, denoted⟩ := Hex.exists_denotes digits
      have read : (ofBytes (Hex.decode (Hex.evened (Hex.dropMark text))).bytes).toNat = number := by
        rw [toNat, bytes_ofBytes]
        exact Hex.toNat_ofBytes_decode denoted fits
      rw [whole]
      exact .number fits (read ▸ denoted)
    · rw [fault]
      exact .badByte fits bad

variable {digits : Bytes} {answer : Except ParseError Address}

theorem Reading.accepted_iff (reading : Reading digits answer) :
    (received zero answer).2 = none ↔
      digits.length ≤ 40 ∧ ∀ byte ∈ digits, Hex.IsDigit byte := by
  cases reading with
  | number fits denoted => exact ⟨fun _ => ⟨fits, denoted.digits⟩, fun _ => rfl⟩
  | tooLong long =>
      refine ⟨nofun, fun ⟨fits, _⟩ => ?_⟩
      omega
  | badByte fits bad => exact ⟨nofun, fun ⟨_, digits⟩ => absurd digits bad.not_digits⟩

theorem Reading.denotes (reading : Reading digits answer)
    (accepted : (received zero answer).2 = none) :
    Hex.Denotes digits (received zero answer).1.toNat := by
  cases reading with
  | number fits denoted => exact denoted
  | tooLong long => cases accepted
  | badByte fits bad => cases accepted

theorem Reading.refused (reading : Reading digits answer) {error : ParseError}
    (failed : (received zero answer).2 = some error) :
    (received zero answer).1 = zero ∧ (error = .tooLong digits ↔ 40 < digits.length) ∧
      (digits.length ≤ 40 → ∃ byte, Hex.FirstBad digits byte ∧
        error = .badDigits (Hex.evened digits) (.badByte byte)) := by
  cases reading with
  | number fits denoted => cases failed
  | tooLong long =>
      cases failed
      refine ⟨rfl, ⟨fun _ => long, fun _ => rfl⟩, fun fits => ?_⟩
      omega
  | badByte fits bad =>
      cases failed
      refine ⟨rfl, ⟨nofun, fun long => ?_⟩, fun _ => ⟨_, bad, rfl⟩⟩
      omega

end Address

/-! ## Exact strict reading -/

/-- For every text, with the digits that remain of it without its mark: a word is read exactly from
1 to 64 digits and an address exactly from at most 40, and each is the number that the digits
denote. Any other text gives the zero value. The refusal of a word is always of the same condition
and names the first bad byte unless the length is at fault; that of an address is about the length
exactly if there are more than 40 bytes, and else names the first bad byte. No text is refused for
an odd length. -/
theorem strict_readers_exact (text : Bytes) :
    let digits := Hex.dropMark text
    let word := received Word.zero (Word.parse text)
    let address := received Address.zero (Address.parse text)
    Hex.Unmarked text digits ∧
      (word.2 = none ↔
        1 ≤ digits.length ∧ digits.length ≤ 64 ∧ ∀ byte ∈ digits, Hex.IsDigit byte) ∧
      (word.2 = none → Hex.Denotes digits word.1.toNat) ∧
      (∀ error, word.2 = some error → word.1 = Word.zero ∧ error.condition = .invalidWordHex ∧
        (1 ≤ digits.length → digits.length ≤ 64 → ∃ byte, Hex.FirstBad digits byte ∧
          error = .badDigits (.badByte byte) ∧
          error.message = ascii "evm: invalid word hex: encoding/hex: invalid byte: " ++
            Hex.codePoint byte)) ∧
      (address.2 = none ↔ digits.length ≤ 40 ∧ ∀ byte ∈ digits, Hex.IsDigit byte) ∧
      (address.2 = none → Hex.Denotes digits address.1.toNat) ∧
      (∀ error, address.2 = some error → address.1 = Address.zero ∧
        (error = .tooLong digits ↔ 40 < digits.length) ∧
        (digits.length ≤ 40 → ∃ byte, Hex.FirstBad digits byte ∧
          error = .badDigits (Hex.evened digits) (.badByte byte))) ∧
      (Hex.decode (Hex.evened digits)).fault ≠ some .oddLength := by
  intro digits word address
  have wordReading := Word.reading_parse text
  have addressReading := Address.reading_parse text
  refine ⟨Hex.unmarked_dropMark text, wordReading.accepted_iff, wordReading.denotes, ?_,
    addressReading.accepted_iff, addressReading.denotes, fun _ => addressReading.refused, ?_⟩
  · intro error failed
    obtain ⟨zeroWord, named⟩ := wordReading.refused failed
    refine ⟨zeroWord, rfl, fun held fits => ?_⟩
    obtain ⟨byte, bad, rfl⟩ := named held fits
    exact ⟨byte, bad, rfl, Word.message_badByte byte⟩
  · rcases Hex.fault_decode_evened digits with ⟨whole, _⟩ | ⟨byte, fault, _⟩
    · rw [whole]
      nofun
    · rw [fault]
      nofun

-- The bad byte is the second digit of a pair that the added zero begins.
example : received Word.zero (Word.parse (ascii "0xg12")) =
    (Word.zero, some (.badDigits (.badByte 0x67))) := by
  decide

/-! ## Agreement -/

theorem Hash.toNat_ofHex {text : Bytes} {number : Nat}
    (denoted : Hex.Denotes (Hex.dropMark text) number) :
    (Hash.ofHex text).toNat = number % 2 ^ 256 := by
  rw [Hash.ofHex, Hash.toNat_ofBytes, Hex.decodeLenient, Hex.toNat_decode_evened denoted]

theorem Address.toNat_ofHex {text : Bytes} {number : Nat}
    (denoted : Hex.Denotes (Hex.dropMark text) number) :
    (Address.ofHex text).toNat = number % 2 ^ 160 := by
  rw [Address.ofHex, Address.toNat_ofBytes, Hex.decodeLenient, Hex.toNat_decode_evened denoted]

/-- Whatever a strict reader accepts, the lenient readers read alike, and a word is read wherever an
address is, unless there are no digits at all. On digits of any number, the lenient readers give
their number modulo 2^256 and 2^160. -/
theorem readers_agree (text : Bytes) :
    (∀ word, Word.parse text = .ok word →
      Hash.ofHex text = word.hash ∧ Address.ofHex text = word.address) ∧
    (∀ address, Address.parse text = .ok address → Address.ofHex text = address ∧
      (Hex.dropMark text ≠ [] → Word.parse text = .ok (Word.ofAddress address))) ∧
    ((∀ byte ∈ Hex.dropMark text, Hex.IsDigit byte) →
      ∃ number, Hex.Denotes (Hex.dropMark text) number ∧
        (Hash.ofHex text).toNat = number % 2 ^ 256 ∧
        (Address.ofHex text).toNat = number % 2 ^ 160) := by
  refine ⟨?_, ?_, ?_⟩
  · intro word accepted
    obtain ⟨_, _, denoted⟩ := Word.parse_eq_ok_iff.mp accepted
    constructor
    · apply Hash.eq_of_toNat_eq
      rw [Hash.toNat_ofHex denoted, Word.toNat_hash, Nat.mod_eq_of_lt word.toNat_lt]
    · apply Address.eq_of_toNat_eq
      rw [Address.toNat_ofHex denoted, Word.toNat_address]
  · intro address accepted
    have reading := Address.reading_parse text
    rw [accepted] at reading
    cases reading with
    | number fits denoted =>
        constructor
        · apply Address.eq_of_toNat_eq
          rw [Address.toNat_ofHex denoted, Nat.mod_eq_of_lt address.toNat_lt]
        · intro nonempty
          have held := List.length_pos_of_ne_nil nonempty
          rw [Word.parse_eq_ok_iff, Word.toNat_ofAddress]
          exact ⟨held, by omega, denoted⟩
  · intro digits
    obtain ⟨number, denoted⟩ := Hex.exists_denotes digits
    exact ⟨number, denoted, Hash.toNat_ofHex denoted, Address.toNat_ofHex denoted⟩

theorem readers_agree_on_three_digits :
    Address.parse (ascii "0XaBc") = .ok (Address.ofBytes [0x0a, 0xbc]) ∧
      Address.ofHex (ascii "0XaBc") = Address.ofBytes [0x0a, 0xbc] ∧
      Word.parse (ascii "0XaBc") = .ok (Word.ofAddress (Address.ofBytes [0x0a, 0xbc])) := by
  have accepted : Address.parse (ascii "0XaBc") = .ok (Address.ofBytes [0x0a, 0xbc]) := rfl
  obtain ⟨_, agreed, _⟩ := readers_agree (ascii "0XaBc")
  obtain ⟨lenient, asWord⟩ := agreed _ accepted
  exact ⟨accepted, lenient, asWord (by decide)⟩

end OperandStack
