import Inclusion.Octets

/-! Hash functions that work block by block. The digest of a message is defined on the padded
message as a whole, and a hash in progress takes the message octet by octet; the two agree however
the message is cut into chunks. -/

set_option autoImplicit false

namespace Inclusion

structure BlockHash where
  State : Type
  start : State
  blockSize : Nat
  absorb : State → Octets → State
  padding : Nat → Octets
  output : State → Octets

namespace BlockHash

/-- Cut octets into whole blocks; a shorter rest is left out. -/
def blocks (size : Nat) (octets : Octets) : List Octets :=
  (List.range (octets.length / size)).map fun position => (octets.drop (position * size)).take size

def digest (hash : BlockHash) (message : Octets) : Octets :=
  hash.output ((blocks hash.blockSize (message ++ hash.padding message.length)).foldl
    hash.absorb hash.start)

/-- A hash in progress: the state after the whole blocks so far, and the octets after them. -/
structure Progress (hash : BlockHash) where
  state : hash.State
  held : Array UInt8
  total : Nat

namespace Progress
variable {hash : BlockHash}

def start : Progress hash := ⟨hash.start, #[], 0⟩

def feedOctet (progress : Progress hash) (octet : UInt8) : Progress hash :=
  let held := progress.held.push octet
  if held.size == hash.blockSize then
    ⟨hash.absorb progress.state held.toList, #[], progress.total + 1⟩
  else ⟨progress.state, held, progress.total + 1⟩

def feed (progress : Progress hash) (octets : Octets) : Progress hash :=
  octets.foldl feedOctet progress

def finish (progress : Progress hash) : Octets :=
  hash.output (progress.feed (hash.padding progress.total)).state

@[simp] theorem feed_nil (progress : Progress hash) : progress.feed [] = progress := rfl

theorem feed_append (progress : Progress hash) (first second : Octets) :
    progress.feed (first ++ second) = (progress.feed first).feed second :=
  List.foldl_append

end Progress

end BlockHash

end Inclusion
