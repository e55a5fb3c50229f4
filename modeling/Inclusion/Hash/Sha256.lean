import Inclusion.Hash.Block

/-! The hash function SHA-256. A block of sixty-four octets is spread over sixty-four words, and
each word moves the eight words of the state one place on. -/

set_option autoImplicit false

namespace Inclusion.Sha256

structure State where
  a : UInt32
  b : UInt32
  c : UInt32
  d : UInt32
  e : UInt32
  f : UInt32
  g : UInt32
  h : UInt32
  deriving DecidableEq, Repr

def start : State :=
  ⟨0x6A09E667, 0xBB67AE85, 0x3C6EF372, 0xA54FF53A, 0x510E527F, 0x9B05688C, 0x1F83D9AB, 0x5BE0CD19⟩

def roundConstants : List UInt32 := [
  0x428A2F98, 0x71374491, 0xB5C0FBCF, 0xE9B5DBA5, 0x3956C25B, 0x59F111F1, 0x923F82A4, 0xAB1C5ED5,
  0xD807AA98, 0x12835B01, 0x243185BE, 0x550C7DC3, 0x72BE5D74, 0x80DEB1FE, 0x9BDC06A7, 0xC19BF174,
  0xE49B69C1, 0xEFBE4786, 0x0FC19DC6, 0x240CA1CC, 0x2DE92C6F, 0x4A7484AA, 0x5CB0A9DC, 0x76F988DA,
  0x983E5152, 0xA831C66D, 0xB00327C8, 0xBF597FC7, 0xC6E00BF3, 0xD5A79147, 0x06CA6351, 0x14292967,
  0x27B70A85, 0x2E1B2138, 0x4D2C6DFC, 0x53380D13, 0x650A7354, 0x766A0ABB, 0x81C2C92E, 0x92722C85,
  0xA2BFE8A1, 0xA81A664B, 0xC24B8B70, 0xC76C51A3, 0xD192E819, 0xD6990624, 0xF40E3585, 0x106AA070,
  0x19A4C116, 0x1E376C08, 0x2748774C, 0x34B0BCB5, 0x391C0CB3, 0x4ED8AA4A, 0x5B9CCA4F, 0x682E6FF3,
  0x748F82EE, 0x78A5636F, 0x84C87814, 0x8CC70208, 0x90BEFFFA, 0xA4506CEB, 0xBEF9A3F7, 0xC67178F2]

def rotateRight (word count : UInt32) : UInt32 := (word >>> count) ||| (word <<< (32 - count))

def wordOfOctets (octets : Octets) : UInt32 :=
  octets.foldl (fun word octet => (word <<< 8) ||| octet.toUInt32) 0

def wordOctets (word : UInt32) : Octets :=
  [(word >>> 24).toUInt8, (word >>> 16).toUInt8, (word >>> 8).toUInt8, word.toUInt8]

/-- Sixteen successive words of the sixty-four. -/
abbrev Window := Vector UInt32 16

def Window.ofBlock (block : Octets) : Window :=
  Vector.ofFn fun position => wordOfOctets ((block.drop (4 * position.val)).take 4)

def Window.next (window : Window) : UInt32 :=
  let first := rotateRight window[1] 7 ^^^ rotateRight window[1] 18 ^^^ (window[1] >>> 3)
  let second := rotateRight window[14] 17 ^^^ rotateRight window[14] 19 ^^^ (window[14] >>> 10)
  window[0] + first + window[9] + second

def Window.slide (window : Window) : Window :=
  Vector.ofFn fun position =>
    if inside : position.val + 1 < 16 then window[position.val + 1] else window.next

def schedule : Nat → Window → List UInt32
  | 0, _ => []
  | count + 1, window => window[0] :: schedule count window.slide

def round (state : State) (step : UInt32 × UInt32) : State :=
  let spread := rotateRight state.e 6 ^^^ rotateRight state.e 11 ^^^ rotateRight state.e 25
  let choice := (state.e &&& state.f) ^^^ (~~~state.e &&& state.g)
  let first := state.h + spread + choice + step.1 + step.2
  let turn := rotateRight state.a 2 ^^^ rotateRight state.a 13 ^^^ rotateRight state.a 22
  let majority := (state.a &&& state.b) ^^^ (state.a &&& state.c) ^^^ (state.b &&& state.c)
  ⟨first + (turn + majority), state.a, state.b, state.c, state.d + first, state.e, state.f, state.g⟩

def absorb (state : State) (block : Octets) : State :=
  let mixed := (roundConstants.zip (schedule 64 (Window.ofBlock block))).foldl round state
  ⟨state.a + mixed.a, state.b + mixed.b, state.c + mixed.c, state.d + mixed.d,
    state.e + mixed.e, state.f + mixed.f, state.g + mixed.g, state.h + mixed.h⟩

def lengthOctets (length : Nat) : Octets :=
  wordOctets (UInt32.ofNat (8 * length / UInt32.size)) ++ wordOctets (UInt32.ofNat (8 * length))

/-- A set bit, zeros, and the length, up to a whole number of blocks. -/
def padding (length : Nat) : Octets :=
  0x80 :: List.replicate ((119 - length % 64) % 64) 0 ++ lengthOctets length

def output (state : State) : Octets :=
  [state.a, state.b, state.c, state.d, state.e, state.f, state.g, state.h].flatMap wordOctets

theorem length_output (state : State) : (output state).length = 32 := rfl

end Inclusion.Sha256

namespace Inclusion

def BlockHash.sha256 : BlockHash where
  State := Sha256.State
  start := Sha256.start
  blockSize := 64
  absorb := Sha256.absorb
  padding := Sha256.padding
  output := Sha256.output

end Inclusion
