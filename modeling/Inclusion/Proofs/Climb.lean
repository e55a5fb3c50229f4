import Inclusion.Proof.Single
import Inclusion.Proofs.Reconstruction

/-! Climbs from a leaf over its siblings. A proof for one leaf may be cut anywhere: the siblings above
the cut go on from what those below it come to. By a builder that computes a function of the message,
every climb over digests succeeds, and a step of it hashes the message of one pair. -/

set_option autoImplicit false

namespace Inclusion

namespace Digest

def ascend (h : Octets → Digest) (digest : Digest) (siblings : List Digest) : Digest :=
  siblings.foldl (fun computed sibling => h (computed.pairMessage sibling)) digest

@[simp] theorem ascend_concat (h : Octets → Digest) (digest : Digest) (siblings : List Digest)
    (sibling : Digest) :
    digest.ascend h (siblings ++ [sibling]) = h ((digest.ascend h siblings).pairMessage sibling) := by
  simp [ascend]

end Digest

/-- The digests that a step of a single proof takes in, once the steps below it have succeeded. -/
def Meets (builder : HashBuilder) (proof : List Value) (leaf : Value) (step : Nat)
    (pair : Digest × Digest) : Prop :=
  ∃ sibling, proof[step]? = some sibling ∧ sibling.toDigest = .ok pair.2 ∧
    processProof builder (proof.take step) leaf = .ok pair.1

section
variable {builder : HashBuilder}

theorem processProof_of_read (proof : List Value) {leaf : Value} {digest : Digest}
    (read : leaf.toDigest = .ok digest) :
    processProof builder proof leaf = climb builder proof digest := by
  unfold processProof
  rw [read]
  rfl

theorem climb_append (below above : List Value) (digest : Digest) :
    climb builder (below ++ above) digest = climb builder below digest >>= climb builder above := by
  induction below generalizing digest with
  | nil => rfl
  | cons sibling below ih =>
    change (sibling.toDigest >>= fun other => builder.hashSorted digest.octets other.octets >>=
      climb builder (below ++ above)) = (sibling.toDigest >>= fun other =>
        builder.hashSorted digest.octets other.octets >>= climb builder below) >>= climb builder above
    rw [funext ih]
    simp only [bind_assoc]

theorem climb_concat {below : List Value} {sibling : Value} {digest computed other top : Digest}
    (reached : climb builder below digest = .ok computed) (read : sibling.toDigest = .ok other)
    (joined : builder.hashSorted computed.octets other.octets = .ok top) :
    climb builder (below ++ [sibling]) digest = .ok top := by
  rw [climb_append, reached]
  change (sibling.toDigest >>= fun other =>
    builder.hashSorted computed.octets other.octets >>= climb builder []) = _
  rw [read]
  change builder.hashSorted computed.octets other.octets >>= climb builder [] = _
  rw [joined]
  rfl

theorem verifyProof_eq (proof : List Value) (root leaf : Value) :
    verifyProof builder proof root leaf =
      processProof builder proof leaf >>= fun computed => root.toDigest.map (computed == ·) := by
  unfold verifyProof
  cases processProof builder proof leaf with
  | error failure => rfl
  | ok computed => cases root.toDigest <;> rfl

theorem verifyProof_eq_true_iff {proof : List Value} {root leaf : Value} {committed : Digest}
    (read : root.toDigest = .ok committed) :
    verifyProof builder proof root leaf = .ok true ↔
      processProof builder proof leaf = .ok committed := by
  rw [verifyProof_eq]
  cases processProof builder proof leaf with
  | error failure =>
    constructor
    all_goals
      intro none
      cases none
  | ok computed =>
    change root.toDigest.map (computed == ·) = _ ↔ _
    rw [read]
    change Except.ok (computed == committed) = _ ↔ _
    simp

variable {h : Octets → Digest} (computes : builder.Computes h) {proof : List Value} {leaf : Value}
  {digest : Digest} {siblings : List Digest} (read : leaf.toDigest = .ok digest)
  (denote : Denote proof siblings)
include computes read denote

theorem processProof_eq : processProof builder proof leaf = .ok (digest.ascend h siblings) := by
  rw [processProof_of_read proof read]
  clear read
  induction denote generalizing digest with
  | nil => rfl
  | @cons value sibling values siblings head _ ih =>
    change (value.toDigest >>= fun other => builder.hashSorted digest.octets other.octets >>=
      climb builder values) = _
    rw [head]
    change builder.hashSorted digest.octets sibling.octets >>= climb builder values = _
    rw [computes.hashSorted]
    exact ih

theorem processProof_take (step : Nat) :
    processProof builder (proof.take step) leaf = .ok (digest.ascend h (siblings.take step)) :=
  processProof_eq computes read (List.forall₂_take step denote)

theorem meets_of_getElem? {step : Nat} {sibling : Digest} (found : siblings[step]? = some sibling) :
    Meets builder proof leaf step (digest.ascend h (siblings.take step), sibling) := by
  obtain ⟨value, there, reads⟩ := Queue.exists_getElem?_of_forall₂ denote.flip found
  exact ⟨value, there, reads, processProof_take computes read denote step⟩

end

end Inclusion
