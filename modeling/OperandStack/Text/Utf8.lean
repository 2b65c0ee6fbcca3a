import OperandStack.Bytes

/-!
# Characters in byte strings

A byte string is cut from the left into pieces: well-formed UTF-8 characters, and stray bytes that
begin none. Overlong forms, surrogates and values above U+10FFFF are not well formed, so each of
their bytes is a stray of its own. The cut loses nothing: `flatMap_bytes_pieces`.
-/

set_option autoImplicit false

namespace OperandStack.Text

/-- A part of a byte string: a character with its encoding, or a byte that begins no character. -/
inductive Piece where
  | scalar (code : Nat) (encoding : Bytes)
  | stray (byte : UInt8)
  deriving DecidableEq, Repr

def Piece.bytes : Piece → Bytes
  | .scalar _ encoding => encoding
  | .stray byte => [byte]

namespace Utf8

def continues (byte : UInt8) : Bool :=
  0x80 ≤ byte && byte ≤ 0xbf

/-- Whether the second byte of a character of three or four bytes keeps it in range: after `e0` and
`f0` the shorter forms are excluded, after `ed` the surrogates, after `f4` what lies above
U+10FFFF. -/
def continuesAfter (lead second : UInt8) : Bool :=
  if lead = 0xe0 then 0xa0 ≤ second && second ≤ 0xbf
  else if lead = 0xed then 0x80 ≤ second && second ≤ 0x9f
  else if lead = 0xf0 then 0x90 ≤ second && second ≤ 0xbf
  else if lead = 0xf4 then 0x80 ≤ second && second ≤ 0x8f
  else continues second

def payload (byte : UInt8) : Nat :=
  byte.toNat % 64

def leading (lead : UInt8) (rest : Bytes) : Piece × Bytes :=
  if lead < 0x80 then (.scalar lead.toNat [lead], rest)
  else
    match rest with
    | second :: afterSecond =>
        if 0xc2 ≤ lead && lead ≤ 0xdf && continues second then
          (.scalar (lead.toNat % 32 * 64 + payload second) [lead, second], afterSecond)
        else
          match afterSecond with
          | third :: afterThird =>
              if 0xe0 ≤ lead && lead ≤ 0xef && continuesAfter lead second && continues third then
                (.scalar (lead.toNat % 16 * 4096 + payload second * 64 + payload third)
                  [lead, second, third], afterThird)
              else
                match afterThird with
                | fourth :: afterFourth =>
                    if 0xf0 ≤ lead && lead ≤ 0xf4 && continuesAfter lead second &&
                        continues third && continues fourth then
                      (.scalar (lead.toNat % 8 * 262144 + payload second * 4096 +
                        payload third * 64 + payload fourth)
                        [lead, second, third, fourth], afterFourth)
                    else (.stray lead, rest)
                | [] => (.stray lead, rest)
          | [] => (.stray lead, rest)
    | [] => (.stray lead, rest)

theorem bytes_leading (lead : UInt8) (rest : Bytes) :
    (leading lead rest).1.bytes ++ (leading lead rest).2 = lead :: rest := by
  unfold leading
  repeat' split
  all_goals simp [Piece.bytes]

theorem length_leading_lt (lead : UInt8) (rest : Bytes) :
    (leading lead rest).2.length < (lead :: rest).length := by
  unfold leading
  repeat' split
  all_goals simp
  all_goals omega

def pieces : Bytes → List Piece
  | [] => []
  | lead :: rest => (leading lead rest).1 :: pieces (leading lead rest).2
termination_by bytes => bytes.length
decreasing_by exact length_leading_lt lead rest

/-- Cutting a byte string into pieces loses nothing. -/
theorem flatMap_bytes_pieces (bytes : Bytes) : (pieces bytes).flatMap Piece.bytes = bytes := by
  fun_induction pieces bytes with
  | case1 => rfl
  | case2 lead rest ih => rw [List.flatMap_cons, ih, bytes_leading]

def encode (code : Nat) : Bytes :=
  if code < 0x80 then [UInt8.ofNat code]
  else if code < 0x800 then [UInt8.ofNat (0xc0 + code / 64), UInt8.ofNat (0x80 + code % 64)]
  else if code < 0x10000 then
    [UInt8.ofNat (0xe0 + code / 4096), UInt8.ofNat (0x80 + code / 64 % 64),
      UInt8.ofNat (0x80 + code % 64)]
  else
    [UInt8.ofNat (0xf0 + code / 262144), UInt8.ofNat (0x80 + code / 4096 % 64),
      UInt8.ofNat (0x80 + code / 64 % 64), UInt8.ofNat (0x80 + code % 64)]

end Utf8

end OperandStack.Text
