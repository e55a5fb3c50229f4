import Inclusion.Conversion
import Inclusion.Hash.Builder

/-! Proofs for one leaf: the siblings on the way from the leaf to the root. No sibling says on which
side it stands, because pairs are hashed in ascending order. -/

set_option autoImplicit false

namespace Inclusion

/-- Climb from a digest over its siblings. A sibling is read when it is reached, so that a fault of
the hash below it comes first. -/
def climb (builder : HashBuilder) : List Value → Digest → Except Failure Digest
  | [], computed => .ok computed
  | sibling :: siblings, computed => do
    let sibling ← sibling.toDigest
    let parent ← builder.hashSorted computed.octets sibling.octets
    climb builder siblings parent

def processProof (builder : HashBuilder) (proof : List Value) (leaf : Value) :
    Except Failure Digest := do
  let leaf ← leaf.toDigest
  climb builder proof leaf

/-- Whether the implied root is the given one. The root is read last. -/
def verifyProof (builder : HashBuilder) (proof : List Value) (root leaf : Value) :
    Except Failure Bool := do
  let computed ← processProof builder proof leaf
  let root ← root.toDigest
  return computed == root

@[simp] theorem climb_nil (builder : HashBuilder) (computed : Digest) :
    climb builder [] computed = .ok computed := rfl

end Inclusion
