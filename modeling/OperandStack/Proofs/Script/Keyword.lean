import OperandStack.Proofs.Text.Encoding
import OperandStack.Script.Operation

/-!
# How keywords are spelled

A name is recognized as a keyword exactly if it is made of the letters of that keyword, each in one
of its forms: in lower case, in upper case, or as the one sign outside ASCII whose lower-case form
it is. The forms are given by their bytes, so that nothing here depends on how characters are read.
-/

set_option autoImplicit false

namespace OperandStack.Script.Keyword

/-! ## Letters and their forms -/

/-- The ways to write a lower-case letter: as it is, as a capital letter, and as the Kelvin sign
for `k` or the dotted capital I for `i`. -/
def forms (letter : UInt8) : List Bytes :=
  [letter] :: [letter - 0x20] ::
    if letter = 0x6b then [[0xe2, 0x84, 0xaa]]
    else if letter = 0x69 then [[0xc4, 0xb0]]
    else []

inductive Spells : (letters name : Bytes) → Prop where
  | nil : Spells [] []
  | cons {letter form letters name} :
      form ∈ forms letter → Spells letters name → Spells (letter :: letters) (form ++ name)

theorem toNat_capital {letter : UInt8} (small : 0x61 ≤ letter.toNat ∧ letter.toNat ≤ 0x7a) :
    (letter - 0x20).toNat = letter.toNat - 0x20 := by
  rw [UInt8.toNat_sub_of_le _ _ (UInt8.le_iff_toNat_le.mpr (by simp; omega))]
  rfl

private theorem mem_forms_of_lowerCode? {code : Nat} {letter : UInt8}
    (lower : lowerCode? (.scalar code (Text.Utf8.encode code)) = some letter.toNat)
    (small : 0x61 ≤ letter.toNat ∧ letter.toNat ≤ 0x7a) : Text.Utf8.encode code ∈ forms letter := by
  unfold lowerCode? at lower
  dsimp only at lower
  split at lower
  · next capital =>
      have value : code = (letter - 0x20).toNat := by
        have same := Option.some.inj lower
        rw [toNat_capital small]
        omega
      rw [value, Text.Utf8.encode_one (by rw [← value]; omega)]
      exact .tail _ (.head _)
  · split at lower
    · next kelvin =>
        have same : letter = 0x6b := UInt8.toNat_inj.mp (Option.some.inj lower).symm
        subst code letter
        decide
    · split at lower
      · next dotted =>
          have same : letter = 0x69 := UInt8.toNat_inj.mp (Option.some.inj lower).symm
          subst code letter
          decide
      · rw [Option.some.inj lower, Text.Utf8.encode_one (by omega)]
        exact .head _

private theorem lowerCode?_leading_form {letter : UInt8} {form : Bytes}
    (member : form ∈ forms letter)
    (small : 0x61 ≤ letter.toNat ∧ letter.toNat ≤ 0x7a) (name : Bytes) :
    ∃ lead rest, form ++ name = lead :: rest ∧
      lowerCode? (Text.Utf8.leading lead rest).1 = some letter.toNat ∧
        (Text.Utf8.leading lead rest).2 = name := by
  rcases List.mem_cons.mp member with rfl | member
  · refine ⟨letter, name, rfl, ?_⟩
    rw [Text.Utf8.leading_one (by omega)]
    refine ⟨?_, rfl⟩
    simp only [lowerCode?]
    rw [if_neg (by omega), if_neg (by omega), if_neg (by omega)]
  rcases List.mem_cons.mp member with rfl | member
  · have capital := toNat_capital small
    refine ⟨letter - 0x20, name, rfl, ?_⟩
    rw [Text.Utf8.leading_one (by omega)]
    refine ⟨?_, rfl⟩
    simp only [lowerCode?, capital]
    rw [if_pos (by omega), Nat.sub_add_cancel (by omega)]
  · split at member
    · next kelvin =>
        obtain rfl := List.mem_singleton.mp member
        subst kelvin
        refine ⟨0xe2, 0x84 :: 0xaa :: name, rfl, ?_, rfl⟩
        have sign : (Text.Utf8.leading 0xe2 (0x84 :: 0xaa :: name)).1 =
            .scalar 0x212a [0xe2, 0x84, 0xaa] := rfl
        rw [sign]
        decide
    · split at member
      · next dotted =>
          obtain rfl := List.mem_singleton.mp member
          subst dotted
          exact ⟨0xc4, 0xb0 :: name, rfl, rfl, rfl⟩
      · cases member

private theorem map_lowerCode?_eq_iff {letters name : Bytes}
    (small : ∀ letter ∈ letters, 0x61 ≤ letter.toNat ∧ letter.toNat ≤ 0x7a) :
    ((Text.Utf8.pieces name).map lowerCode? = letters.map fun letter => some letter.toNat) ↔
      Spells letters name := by
  constructor
  · intro same
    induction letters generalizing name with
    | nil =>
        cases name with
        | nil => exact .nil
        | cons lead rest => simp [Text.Utf8.pieces] at same
    | cons letter letters ih =>
        obtain ⟨smallLetter, smallLetters⟩ := List.forall_mem_cons.mp small
        cases name with
        | nil => simp [Text.Utf8.pieces] at same
        | cons lead rest =>
            rw [Text.Utf8.pieces, List.map_cons, List.map_cons, List.cons.injEq] at same
            have spelled := ih smallLetters same.2
            have split := Text.Utf8.bytes_leading lead rest
            cases piece : (Text.Utf8.leading lead rest).1 with
            | stray byte =>
                -- A stray byte is no character, so no letter is its lower-case form.
                rw [piece] at same
                cases same.1
            | scalar code encoding =>
                obtain rfl := Text.Utf8.encoding_leading piece
                rw [piece] at same split
                rw [← split]
                exact .cons (mem_forms_of_lowerCode? same.1 smallLetter) spelled
  · intro spelled
    induction spelled with
    | nil => simp [Text.Utf8.pieces]
    | @cons letter form letters name member _ ih =>
        obtain ⟨smallLetter, smallLetters⟩ := List.forall_mem_cons.mp small
        obtain ⟨lead, rest, front, lower, rest_eq⟩ :=
          lowerCode?_leading_form member smallLetter name
        rw [front, Text.Utf8.pieces, List.map_cons, List.map_cons, lower, rest_eq,
          ih smallLetters]

private theorem encodeChar_one {byte : UInt8} (ascii : byte.toNat < 0x80) :
    String.utf8EncodeChar (Char.ofNat byte.toNat) = [byte] := by
  have all : ∀ code : Fin 0x80, String.utf8EncodeChar (Char.ofNat code) = [UInt8.ofNat code] := by
    decide
  rw [all ⟨byte.toNat, ascii⟩, UInt8.ofNat_toNat]

private theorem exists_char_of_mem_forms {letter : UInt8} {form : Bytes}
    (member : form ∈ forms letter) (small : 0x61 ≤ letter.toNat ∧ letter.toNat ≤ 0x7a) :
    ∃ character, form = String.utf8EncodeChar character := by
  rcases List.mem_cons.mp member with rfl | member
  · exact ⟨_, (encodeChar_one (by omega)).symm⟩
  rcases List.mem_cons.mp member with rfl | member
  · refine ⟨_, (encodeChar_one ?_).symm⟩
    rw [toNat_capital small]
    omega
  · split at member
    · exact ⟨'\u212a', List.mem_singleton.mp member⟩
    · split at member
      · exact ⟨'\u0130', List.mem_singleton.mp member⟩
      · cases member

/-- What spells lower-case letters is a text, so a name with bytes outside UTF-8 spells nothing. -/
theorem Spells.exists_text {letters name : Bytes} (spelled : Spells letters name)
    (small : ∀ letter ∈ letters, 0x61 ≤ letter.toNat ∧ letter.toNat ≤ 0x7a) :
    ∃ text : List Char, name = text.flatMap String.utf8EncodeChar := by
  induction spelled with
  | nil => exact ⟨[], rfl⟩
  | cons member _ ih =>
      obtain ⟨smallLetter, smallLetters⟩ := List.forall_mem_cons.mp small
      obtain ⟨character, rfl⟩ := exists_char_of_mem_forms member smallLetter
      obtain ⟨text, rfl⟩ := ih smallLetters
      exact ⟨character :: text, rfl⟩

/-! ## Recognized names -/

theorem spelling_small (keyword : Keyword) :
    ∀ letter ∈ keyword.spelling, 0x61 ≤ letter.toNat ∧ letter.toNat ≤ 0x7a := by
  have all : keyword.spelling.all fun letter => 0x61 ≤ letter.toNat ∧ letter.toNat ≤ 0x7a := by
    cases keyword <;> rfl
  intro letter member
  exact of_decide_eq_true (List.all_eq_true.mp all letter member)

theorem spelledBy_iff {keyword : Keyword} {name : Bytes} :
    keyword.spelledBy name = true ↔ Spells keyword.spelling name := by
  rw [spelledBy, decide_eq_true_eq]
  exact map_lowerCode?_eq_iff keyword.spelling_small

/-- At most one keyword is spelled by a name, so the order of the keywords does not matter. -/
private theorem eq_of_spelledBy {first second : Keyword} {name : Bytes}
    (byFirst : first.spelledBy name = true) (bySecond : second.spelledBy name = true) :
    first = second := by
  rw [spelledBy, decide_eq_true_eq] at byFirst bySecond
  rw [byFirst] at bySecond
  revert bySecond
  clear byFirst
  cases first <;> cases second <;> decide

private theorem spelledBy_of_ofName? {name : Bytes} {keyword : Keyword}
    (found : ofName? name = some keyword) : keyword.spelledBy name = true := by
  rw [ofName?] at found
  have spelled := List.find?_some found
  exact spelled

theorem ofName?_eq_some_iff {name : Bytes} {keyword : Keyword} :
    ofName? name = some keyword ↔ Spells keyword.spelling name := by
  rw [← spelledBy_iff]
  constructor
  · exact spelledBy_of_ofName?
  · intro spelled
    cases found : ofName? name with
    | none =>
        have member : keyword ∈ all := by cases keyword <;> decide
        exact absurd spelled (List.find?_eq_none.mp found keyword member)
    | some other => rw [eq_of_spelledBy spelled (spelledBy_of_ofName? found)]

end OperandStack.Script.Keyword
