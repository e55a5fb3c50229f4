import Inclusion.Failure

/-! Limits on the sizes of a multiproof. Sizes alone are judged, so that an input that is too large is
turned down before any of its values is read. -/

set_option autoImplicit false

namespace Inclusion

structure Limits where
  leaves : Nat
  proof : Nat
  flags : Nat
  deriving DecidableEq, Repr

namespace Limits

/-- The first of the leaves, the proof and the flags that is over its limit. -/
def check (limits : Limits) (leaves proof flags : Nat) : Except MultiProofError Unit :=
  if limits.leaves < leaves then .error (.tooLarge .leaves leaves limits.leaves)
  else if limits.proof < proof then .error (.tooLarge .proof proof limits.proof)
  else if limits.flags < flags then .error (.tooLarge .flags flags limits.flags)
  else .ok ()

theorem check_eq_ok_iff (limits : Limits) (leaves proof flags : Nat) :
    limits.check leaves proof flags = .ok () ↔
      leaves ≤ limits.leaves ∧ proof ≤ limits.proof ∧ flags ≤ limits.flags := by
  grind [check]

end Limits

end Inclusion
