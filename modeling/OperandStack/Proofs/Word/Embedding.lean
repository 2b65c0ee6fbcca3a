import OperandStack.Proofs.Word.Integer

/-!
# Addresses in words

An address goes into the low-order 20 bytes of a word and comes out of them. Going in keeps its
number, and coming out keeps the number of the word modulo 2^160, so that nothing is lost on the way
in and the high-order 12 bytes are lost on the way out. A client's types take the same bytes along
other routes, and a stack hands back the number that was put on it.
-/

set_option autoImplicit false

namespace OperandStack

/-! ## Going in and coming out -/

namespace Word

theorem address_ofAddress (address : Address) : (ofAddress address).address = address := by
  apply Address.eq_of_toNat_eq
  rw [toNat_address, toNat_ofAddress, Nat.mod_eq_of_lt address.toNat_lt]

theorem toNat_ofAddress_address (word : Word) :
    (ofAddress word.address).toNat = word.toNat % 2 ^ 160 := by
  rw [toNat_ofAddress, toNat_address]

theorem toList_address (word : Word) : word.address.toList = word.toList.drop 12 := by
  have length : (word.toList.drop 12).length = addressLength := by
    rw [List.length_drop]
    exact congrArg (· - 12) word.bytes.length_toList
  rw [address, Address.toList, Address.bytes_ofBytes]
  exact congrArg FixedBytes.toList (FixedBytes.ofBytes_toList ⟨word.toList.drop 12, length⟩)

theorem toList_ofAddress (address : Address) :
    (ofAddress address).toList = List.replicate 12 0 ++ address.toList := rfl

/-- A word survives the truncation to an address exactly if it was one. -/
theorem ofAddress_address_eq_iff (word : Word) :
    ofAddress word.address = word ↔ ∀ byte ∈ word.toList.take 12, byte = 0 := by
  have width : word.toList.length = 32 := word.bytes.length_toList
  have high : (word.toList.take 12).length = 12 := by
    rw [List.length_take, width]
    rfl
  have zeros : word.toList.take 12 = List.replicate 12 0 ↔
      ∀ byte ∈ word.toList.take 12, byte = 0 := by
    rw [List.eq_replicate_iff, and_iff_right high]
  rw [← zeros]
  constructor
  · intro restored
    have bytes := congrArg toList restored
    rw [toList_ofAddress] at bytes
    rw [← bytes]
    exact List.take_left' List.length_replicate
  · intro cleared
    apply Word.ext
    apply FixedBytes.ext
    show (ofAddress word.address).toList = word.toList
    rw [toList_ofAddress, toList_address, ← cleared, List.take_append_drop]

end Word

/-! ## Through a stack -/

theorem Stack.run_push_popUInt256 {Sink : Type} {stack : Stack Sink} (room : stack.depth < 1024)
    (op : Op) {word : Word} (pushes : op.pushed? = some word) :
    (run stack [op, .popUInt256]).results = [.ok .done, .ok (.number word.toUInt256)] ∧
      (run stack [op, .popUInt256]).stack.items = stack.items := by
  have pushed := apply_realizes stack op
  have fits : stack.items.length < stackLimit := by
    rw [length_items]
    exact room
  rw [meaning_eq_push pushes, Meaning.push, if_pos fits] at pushed
  have popped := apply_realizes (stack.apply op).stack .popUInt256
  rw [pushed.items, Op.meaning, Meaning.pop, List.getLast?_concat, List.dropLast_concat] at popped
  refine ⟨?_, popped.items⟩
  simp only [run, pushed.result, popped.result, Meaning.answered]

namespace Word

/-- Addresses and words agree on every route between them. An address is the word of its number,
which is below 2^160, and comes out of that word again. A word is cut to its number modulo 2^160,
and comes back exactly if its high-order 12 bytes are zero. A client's values hold the same bytes.
On every stack with room, a client's address and a 256-bit number come back from the next pop as
the number that they are, and the words below are as before. -/
theorem addresses_embed_and_truncate {Sink : Type} :
    (∀ address : Address,
      (ofAddress address).address = address ∧
      (ofAddress address).toNat =
        Nat.ofDigits 256 (address.toList.reverse.map UInt8.toNat) ∧
      (ofAddress address).toNat < 2 ^ 160 ∧
      address.toClient.raw.toList = address.toList ∧
      address.toClient.toWord = ofAddress address) ∧
    (∀ word : Word,
      (ofAddress word.address).toNat = word.toNat % 2 ^ 160 ∧
      (ofAddress word.address = word ↔ ∀ byte ∈ word.toList.take 12, byte = 0) ∧
      word.toClientAddress = word.address.toClient ∧
      word.toClientAddress.raw.toList = word.toList.drop 12 ∧
      word.toClientHash.raw.toList = word.toList ∧
      word.toClientHash.toWord = word) ∧
    (∀ stack : Stack Sink, stack.depth < 1024 →
      (∀ client : ClientAddress, ∃ number : UInt256,
        let through := Stack.run stack [.pushClientAddress client, .popUInt256]
        through.results = [.ok .done, .ok (.number number)] ∧
        number.toNat = Nat.ofDigits 256 (client.raw.toList.reverse.map UInt8.toNat) ∧
        through.stack.items = stack.items) ∧
      (∀ number : UInt256,
        let through := Stack.run stack [.pushUInt256 (some number), .popUInt256]
        through.results = [.ok .done, .ok (.number number)] ∧
        through.stack.items = stack.items)) := by
  have number (address : Address) : (ofAddress address).toNat =
      Nat.ofDigits 256 (address.toList.reverse.map UInt8.toNat) :=
    (toNat_ofAddress address).trans (Bytes.toNat_eq_ofDigits _)
  refine ⟨?_, ?_, ?_⟩
  · intro address
    have small : (ofAddress address).toNat < 2 ^ 160 := by
      rw [toNat_ofAddress]
      exact address.toNat_lt
    exact ⟨address_ofAddress address, number address, small, rfl, rfl⟩
  · intro word
    exact ⟨toNat_ofAddress_address word, ofAddress_address_eq_iff word, rfl, toList_address word,
      rfl, rfl⟩
  · intro stack room
    constructor
    · intro client
      obtain ⟨results, items⟩ :=
        Stack.run_push_popUInt256 room (.pushClientAddress client) rfl
      refine ⟨_, results, ?_, items⟩
      rw [toNat_toUInt256]
      exact number client.toAddress
    · intro value
      obtain ⟨results, items⟩ :=
        Stack.run_push_popUInt256 room (.pushUInt256 (some value)) rfl
      have same : (ofOptionalUInt256 (some value)).toUInt256 = value := toUInt256_ofUInt256 value
      rw [same] at results
      exact ⟨results, items⟩

def allOnes : Word :=
  .ofBytes (List.replicate 32 0xff)

def underOne : Stack Nat :=
  ⟨⟨#[allOnes], 1, Nat.le_refl 1⟩, .single 7⟩

def widestClient : ClientAddress :=
  ⟨⟨List.replicate 20 0xff, rfl⟩⟩

theorem widest_word_and_client :
    (ofAddress allOnes.address).toNat = 2 ^ 160 - 1 ∧ ofAddress allOnes.address ≠ allOnes ∧
      underOne.depth < 1024 ∧
      ∃ number : UInt256, number.toNat = 2 ^ 160 - 1 ∧
        (Stack.run underOne [.pushClientAddress widestClient, .popUInt256]).results =
          [.ok .done, .ok (.number number)] ∧
        (Stack.run underOne [.pushClientAddress widestClient, .popUInt256]).stack.items =
          [allOnes] := by
  obtain ⟨_, truncates, comesBack⟩ := @addresses_embed_and_truncate Nat
  obtain ⟨cut, restored, _⟩ := truncates allOnes
  have room : underOne.depth < 1024 := by decide
  obtain ⟨number, results, value, items⟩ := (comesBack underOne room).1 widestClient
  refine ⟨cut.trans (by decide +kernel), ?_, room, number, value.trans (by decide +kernel), results,
    items⟩
  intro same
  exact absurd (restored.mp same 0xff (by decide +kernel)) (by decide)

end Word

end OperandStack
