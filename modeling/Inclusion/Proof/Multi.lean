import Inclusion.Conversion
import Inclusion.Event
import Inclusion.Proof.Cursors
import Inclusion.Proof.Limits

/-! Proofs for several leaves at once, from values of any kind. Sizes are judged first, then leaves
and nodes are read, and only then does the first step run. -/

set_option autoImplicit false

namespace Inclusion

/-- The root candidate of a multiproof. Sizes are judged before any value is read. Without a step
a sole value is the candidate, and there is none if there is not exactly one value. -/
def reconstruct (builder : HashBuilder) (limits : Limits) (proof flags leaves : List Value) :
    Except Failure (Option Digest) := do
  (limits.check leaves.length proof.length flags.length).mapError .multiProof
  if flags.isEmpty then
    match leaves, proof with
    | [sole], [] | [], [sole] => some <$> sole.toDigest
    | _, _ => return none
  else if leaves.length + proof.length != flags.length + 1 then
    throw (.multiProof (.totalHashes leaves.length proof.length flags.length))
  else
    let leaves ← leaves.mapM Value.toDigest
    let nodes ← proof.mapM Value.toDigest
    combine builder ⟨leaves.toArray, nodes.toArray⟩ (flags.map Value.truth)

/-- The root that a multiproof implies. Having no candidate is a fault of the shape here. -/
def processMultiProof (builder : HashBuilder) (limits : Limits) (proof flags leaves : List Value) :
    Except Failure Digest := do
  match ← reconstruct builder limits proof flags leaves with
  | some computed => return computed
  | none => throw (.multiProof (.totalHashes leaves.length proof.length flags.length))

/-- Whether the implied root is the given one. A fault of the shape is told and raised again; where
there is no candidate the root is not even read. -/
def verifyMultiProof (builder : HashBuilder) (limits : Limits) (proof flags : List Value)
    (root : Value) (leaves : List Value) : Outcome Bool :=
  match reconstruct builder limits proof flags leaves with
  | .error (.multiProof error) =>
    ⟨[.rejected error leaves.length proof.length flags.length], .error (.multiProof error)⟩
  | .error failure => .quiet (.error failure)
  | .ok none => .quiet (.ok false)
  | .ok (some computed) => .quiet (root.toDigest.map (computed == ·))

end Inclusion
