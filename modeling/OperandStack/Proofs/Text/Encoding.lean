import OperandStack.Text.Utf8

/-!
# Characters and their bytes

A character has one to four bytes, told by the lead byte. Whatever is cut off a byte string as a
character is the encoding of its code, so characters with the same code have the same bytes.
-/

set_option autoImplicit false

namespace OperandStack.Text.Utf8

private theorem continues_iff (byte : UInt8) :
    continues byte = true ↔ 0x80 ≤ byte.toNat ∧ byte.toNat ≤ 0xbf := by
  simp [continues, UInt8.le_iff_toNat_le]

private theorem of_continuesAfter {lead second : UInt8}
    (continued : continuesAfter lead second = true) :
    (0x80 ≤ second.toNat ∧ second.toNat ≤ 0xbf) ∧ (lead.toNat = 0xe0 → 0xa0 ≤ second.toNat) ∧
      (lead.toNat = 0xf0 → 0x90 ≤ second.toNat) := by
  unfold continuesAfter at continued
  repeat' split at continued
  all_goals
    simp only [Bool.and_eq_true, decide_eq_true_eq, UInt8.le_iff_toNat_le, continues_iff,
      ← UInt8.toNat_inj, UInt8.reduceToNat] at *
    omega

private theorem ofNat_of_eq_toNat {value : Nat} (byte : UInt8) (same : value = byte.toNat) :
    UInt8.ofNat value = byte := by
  rw [same, UInt8.ofNat_toNat]

theorem leading_one {lead : UInt8} (ascii : lead.toNat < 0x80) (rest : Bytes) :
    leading lead rest = (.scalar lead.toNat [lead], rest) := by
  unfold leading
  rw [if_pos (UInt8.lt_iff_toNat_lt.mpr ascii)]

theorem encode_one {lead : UInt8} (ascii : lead.toNat < 0x80) : encode lead.toNat = [lead] := by
  rw [encode, if_pos ascii, UInt8.ofNat_toNat]

private theorem encode_two {lead second : UInt8} (leading : 0xc2 ≤ lead.toNat ∧ lead.toNat ≤ 0xdf)
    (continued : 0x80 ≤ second.toNat ∧ second.toNat ≤ 0xbf) :
    encode (lead.toNat % 32 * 64 + payload second) = [lead, second] := by
  unfold encode payload
  rw [if_neg (by omega), if_pos (by omega), ofNat_of_eq_toNat lead (by omega),
    ofNat_of_eq_toNat second (by omega)]

private theorem encode_three {lead second third : UInt8}
    (leading : 0xe0 ≤ lead.toNat ∧ lead.toNat ≤ 0xef)
    (continued : 0x80 ≤ second.toNat ∧ second.toNat ≤ 0xbf)
    (notShorter : lead.toNat = 0xe0 → 0xa0 ≤ second.toNat)
    (last : 0x80 ≤ third.toNat ∧ third.toNat ≤ 0xbf) :
    encode (lead.toNat % 16 * 4096 + payload second * 64 + payload third) =
      [lead, second, third] := by
  unfold encode payload
  rw [if_neg (by omega), if_neg (by omega), if_pos (by omega),
    ofNat_of_eq_toNat lead (by omega), ofNat_of_eq_toNat second (by omega),
    ofNat_of_eq_toNat third (by omega)]

private theorem encode_four {lead second third fourth : UInt8}
    (leading : 0xf0 ≤ lead.toNat ∧ lead.toNat ≤ 0xf4)
    (continued : 0x80 ≤ second.toNat ∧ second.toNat ≤ 0xbf)
    (notShorter : lead.toNat = 0xf0 → 0x90 ≤ second.toNat)
    (next : 0x80 ≤ third.toNat ∧ third.toNat ≤ 0xbf)
    (last : 0x80 ≤ fourth.toNat ∧ fourth.toNat ≤ 0xbf) :
    encode (lead.toNat % 8 * 262144 + payload second * 4096 + payload third * 64 +
        payload fourth) = [lead, second, third, fourth] := by
  unfold encode payload
  rw [if_neg (by omega), if_neg (by omega), if_neg (by omega),
    ofNat_of_eq_toNat lead (by omega), ofNat_of_eq_toNat second (by omega),
    ofNat_of_eq_toNat third (by omega), ofNat_of_eq_toNat fourth (by omega)]

/-- The bytes of a character are the encoding of its code. -/
theorem encoding_leading {lead : UInt8} {rest encoding : Bytes} {code : Nat}
    (read : (leading lead rest).1 = .scalar code encoding) : encoding = encode code := by
  unfold leading at read
  split at read
  · next ascii =>
      cases read
      exact (encode_one (UInt8.lt_iff_toNat_lt.mp ascii)).symm
  · split at read
    · split at read
      · next two =>
          simp only [Bool.and_eq_true, decide_eq_true_eq, UInt8.le_iff_toNat_le] at two
          cases read
          exact (encode_two two.1 ((continues_iff _).mp two.2)).symm
      · split at read
        · split at read
          · next three =>
              simp only [Bool.and_eq_true, decide_eq_true_eq, UInt8.le_iff_toNat_le] at three
              obtain ⟨⟨bounds, second⟩, third⟩ := three
              obtain ⟨continued, notShorter, _⟩ := of_continuesAfter second
              cases read
              exact (encode_three bounds continued notShorter ((continues_iff _).mp third)).symm
          · split at read
            · split at read
              · next four =>
                  simp only [Bool.and_eq_true, decide_eq_true_eq, UInt8.le_iff_toNat_le] at four
                  obtain ⟨⟨⟨bounds, second⟩, third⟩, fourth⟩ := four
                  obtain ⟨continued, _, notShorter⟩ := of_continuesAfter second
                  cases read
                  exact (encode_four bounds continued notShorter ((continues_iff _).mp third)
                    ((continues_iff _).mp fourth)).symm
              · cases read
            · cases read
        · cases read
    · cases read

end OperandStack.Text.Utf8
