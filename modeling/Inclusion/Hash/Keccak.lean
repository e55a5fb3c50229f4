import Inclusion.Hash.Block

/-! The Keccak sponge with 256 bits of output, in its two paddings. A state has twenty-five lanes of
sixty-four bits in rows of five, and a block of 136 octets covers the first seventeen of them. -/

set_option autoImplicit false

namespace Inclusion.Keccak

abbrev State := Vector UInt64 25

def lane (state : State) (column row : Nat) : UInt64 :=
  state[column % 5 + 5 * (row % 5)]

def ofLanes (make : Nat → Nat → UInt64) : State :=
  Vector.ofFn fun position => make (position.val % 5) (position.val / 5)

def rotateLeft (word : UInt64) (count : Nat) : UInt64 :=
  (word <<< UInt64.ofNat count) ||| (word >>> UInt64.ofNat (64 - count))

def mixColumns (state : State) : State :=
  let parity : Vector UInt64 5 := Vector.ofFn fun column =>
    lane state column 0 ^^^ lane state column 1 ^^^ lane state column 2 ^^^
      lane state column 3 ^^^ lane state column 4
  let mask : Vector UInt64 5 := Vector.ofFn fun column =>
    parity[(column.val + 4) % 5] ^^^ rotateLeft parity[(column.val + 1) % 5] 1
  ofLanes fun column row => lane state column row ^^^ mask[column % 5]

def rotations : Vector Nat 25 :=
  #v[0, 1, 62, 28, 27, 36, 44, 6, 55, 20, 3, 10, 43, 25, 39, 41, 45, 15, 21, 8, 18, 2, 61, 56, 14]

/-- Turn every lane and move it: column `x` and row `y` go to column `y` and row `2x + 3y`. -/
def scatter (state : State) : State :=
  ofLanes fun column row =>
    let source := (column + 3 * row) % 5
    rotateLeft (lane state source column) rotations[source % 5 + 5 * (column % 5)]

def combineRows (state : State) : State :=
  ofLanes fun column row =>
    lane state column row ^^^ (~~~(lane state (column + 1) row) &&& lane state (column + 2) row)

def roundConstants : List UInt64 := [
  0x0000000000000001, 0x0000000000008082, 0x800000000000808A, 0x8000000080008000,
  0x000000000000808B, 0x0000000080000001, 0x8000000080008081, 0x8000000000008009,
  0x000000000000008A, 0x0000000000000088, 0x0000000080008009, 0x000000008000000A,
  0x000000008000808B, 0x800000000000008B, 0x8000000000008089, 0x8000000000008003,
  0x8000000000008002, 0x8000000000000080, 0x000000000000800A, 0x800000008000000A,
  0x8000000080008081, 0x8000000000008080, 0x0000000080000001, 0x8000000080008008]

def round (state : State) (constant : UInt64) : State :=
  let mixed := combineRows (scatter (mixColumns state))
  mixed.set 0 (mixed[0] ^^^ constant)

def permute (state : State) : State := roundConstants.foldl round state

def laneOctets (word : UInt64) : Octets :=
  (List.range 8).map fun position => (word >>> UInt64.ofNat (8 * position)).toUInt8

def laneOfOctets (octets : Octets) : UInt64 :=
  octets.foldr (fun octet word => (word <<< 8) ||| octet.toUInt64) 0

def rate : Nat := 136

def absorb (state : State) (block : Octets) : State :=
  permute (Vector.ofFn fun position =>
    state[position] ^^^ laneOfOctets ((block.drop (8 * position.val)).take 8))

/-- A first octet that marks the padding, zeros, and the top bit of the last octet of the block. -/
def padding (mark : UInt8) (length : Nat) : Octets :=
  match rate - 1 - length % rate with
  | 0 => [mark ||| 0x80]
  | room + 1 => mark :: List.replicate room 0 ++ [0x80]

def output (state : State) : Octets :=
  laneOctets state[0] ++ laneOctets state[1] ++ laneOctets state[2] ++ laneOctets state[3]

theorem length_output (state : State) : (output state).length = 32 := by
  simp [output, laneOctets]

def sponge (mark : UInt8) : BlockHash where
  State := State
  start := Vector.replicate 25 0
  blockSize := rate
  absorb := absorb
  padding := padding mark
  output := output

end Inclusion.Keccak

namespace Inclusion

/-- Keccak-256 with the padding of its first publication. -/
def BlockHash.keccak256 : BlockHash := Keccak.sponge 0x01

/-- SHA3-256, which differs from Keccak-256 in the padding alone. -/
def BlockHash.sha3 : BlockHash := Keccak.sponge 0x06

end Inclusion
