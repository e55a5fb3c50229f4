import Inclusion.Verifier

/-! Gates that admit only members of a committed set. The root is fixed when a gate is made, proofs
come from the caller, and everything short of a successful verification is a denial. -/

set_option autoImplicit false

namespace Inclusion

structure Gate where
  root : Digest
  verifier : Verifier

namespace Gate

def ofValue (root : Value) (verifier : Verifier) : Except Failure Gate :=
  root.toDigest.map fun root => ⟨root, verifier⟩

def isAllowed (gate : Gate) (leaf : Value) (proof : List Value) : Except Failure Bool :=
  gate.verifier.verify proof (.digest gate.root) leaf

def requireAllowed (gate : Gate) (leaf : Value) (proof : List Value) : Except Failure Unit := do
  if ← gate.isAllowed leaf proof then return ()
  else
    let leaf ← leaf.toDigest
    throw (.denied (.leaf leaf))

/-- A multiproof of the wrong shape counts as not allowed. -/
def areAllowed (gate : Gate) (leaves proof flags : List Value) (session : Session) :
    Outcome Bool × Session :=
  let (outcome, session) :=
    gate.verifier.verifyMultiProof proof flags (.digest gate.root) leaves session
  match outcome.result with
  | .error (.multiProof _) => (⟨outcome.events, .ok false⟩, session)
  | _ => (outcome, session)

/-- Admit a batch of members. A denial for the shape of the multiproof has that fault as its
cause. -/
def requireAllAllowed (gate : Gate) (leaves proof flags : List Value) (session : Session) :
    Outcome Unit × Session :=
  let (outcome, session) :=
    gate.verifier.verifyMultiProof proof flags (.digest gate.root) leaves session
  match outcome.result with
  | .ok true => (⟨outcome.events, .ok ()⟩, session)
  | .ok false => (⟨outcome.events, .error (.denied (.batch leaves.length))⟩, session)
  | .error (.multiProof error) =>
    (⟨outcome.events ++ [.malformed error leaves.length], .error (.denied (.malformed error))⟩,
      session)
  | .error failure => (⟨outcome.events, .error failure⟩, session)

end Gate

end Inclusion
