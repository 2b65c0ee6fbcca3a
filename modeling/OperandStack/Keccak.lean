import OperandStack.Hash

/-!
# Keccak-256

The sponge of rate 136 over the 1600-bit permutation with 24 rounds, with the padding `01 … 80` that
came before the standardised one. The state is 25 lanes of 64 bits; the lane at column `x` and row
`y` has the position `5 * y + x`.
-/

set_option autoImplicit false

namespace OperandStack.Keccak

/-- The lanes of the state; a position outside reads as zero. -/
abbrev State := Array UInt64

def lane (state : State) (column row : Nat) : UInt64 :=
  state.getD (5 * (row % 5) + column % 5) 0

def ofLanes (lanes : Nat → Nat → UInt64) : State :=
  (Array.range 25).map fun position => lanes (position % 5) (position / 5)

def rotate (value : UInt64) (amount : UInt64) : UInt64 :=
  if amount = 0 then value else (value <<< amount) ||| (value >>> (64 - amount))

def rotations : Array UInt64 :=
  #[0, 1, 62, 28, 27, 36, 44, 6, 55, 20, 3, 10, 43, 25, 39, 41, 45, 15, 21, 8, 18, 2, 61, 56, 14]

def roundConstants : List UInt64 :=
  [0x0000000000000001, 0x0000000000008082, 0x800000000000808a, 0x8000000080008000,
   0x000000000000808b, 0x0000000080000001, 0x8000000080008081, 0x8000000000008009,
   0x000000000000008a, 0x0000000000000088, 0x0000000080008009, 0x000000008000000a,
   0x000000008000808b, 0x800000000000008b, 0x8000000000008089, 0x8000000000008003,
   0x8000000000008002, 0x8000000000000080, 0x000000000000800a, 0x800000008000000a,
   0x8000000080008081, 0x8000000000008080, 0x0000000080000001, 0x8000000080008008]

/-- Adds to every lane the parity of two neighbouring columns. -/
def mixColumns (state : State) : State :=
  let parity := (Array.range 5).map fun column =>
    lane state column 0 ^^^ lane state column 1 ^^^ lane state column 2 ^^^
      lane state column 3 ^^^ lane state column 4
  let effect := (Array.range 5).map fun column =>
    parity.getD ((column + 4) % 5) 0 ^^^ rotate (parity.getD ((column + 1) % 5) 0) 1
  ofLanes fun column row => lane state column row ^^^ effect.getD column 0

/-- Rotates every lane and moves it: the lane at column `x` and row `y` goes to column `y` and row
`2 * x + 3 * y`. -/
def permute (state : State) : State :=
  ofLanes fun column row =>
    let sourceColumn := (column + 3 * row) % 5
    rotate (lane state sourceColumn column) (rotations.getD (5 * column + sourceColumn) 0)

def combineRows (state : State) : State :=
  ofLanes fun column row =>
    lane state column row ^^^ (~~~(lane state (column + 1) row) &&& lane state (column + 2) row)

def round (state : State) (constant : UInt64) : State :=
  let mixed := combineRows (permute (mixColumns state))
  mixed.modify 0 (· ^^^ constant)

def permutation (state : State) : State :=
  roundConstants.foldl round state

def rate : Nat := 136

/-- A lane from its bytes, least significant first. -/
def laneOfBytes (bytes : Bytes) : UInt64 :=
  bytes.foldr (fun byte value => value <<< 8 ||| byte.toUInt64) 0

def bytesOfLane (value : UInt64) : Bytes :=
  (List.range 8).map fun index => (value >>> (8 * index).toUInt64).toUInt8

def absorb (state : State) (block : Bytes) : State :=
  permutation <| ofLanes fun column row =>
    lane state column row ^^^ laneOfBytes ((block.drop (8 * (5 * row + column))).take 8)

def pad (bytes : Bytes) : Bytes :=
  if bytes.length + 1 = rate then bytes ++ [0x81]
  else bytes ++ 0x01 :: List.replicate (rate - 2 - bytes.length) 0 ++ [0x80]

def absorbAll (state : State) (message : Bytes) : State :=
  if message.length < rate then absorb state (pad message)
  else absorbAll (absorb state (message.take rate)) (message.drop rate)
termination_by message.length
decreasing_by simp [rate] at *; omega

def digest (message : Bytes) : Hash :=
  let final := absorbAll (Array.replicate 25 0) message
  Hash.ofBytes ((List.range 4).flatMap fun column => bytesOfLane (lane final column 0))

def emptyDigest : Hash :=
  Hash.ofHex (ascii "c5d2460186f7233c927e7db2dcc703c0e500b653ca82273b7bfad8045d85a470")

end OperandStack.Keccak
