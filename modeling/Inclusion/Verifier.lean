import Inclusion.Proof.Multi
import Inclusion.Proof.Single
import Inclusion.Settings.Session

/-! Verifiers: a hash builder together with settings of its own or those of the session. Only batch
verification is subject to limits, so only it reads settings. -/

set_option autoImplicit false

namespace Inclusion

structure Verifier where
  builder : HashBuilder
  settings : Option Settings

namespace Verifier

def limits (verifier : Verifier) (session : Session) : Except Failure Limits × Session :=
  match verifier.settings with
  | some settings => (.ok settings.limits, session)
  | none =>
    let (settings, session) := session.settings
    (settings.map Settings.limits, session)

def processProof (verifier : Verifier) (proof : List Value) (leaf : Value) :
    Except Failure Digest :=
  Inclusion.processProof verifier.builder proof leaf

def verify (verifier : Verifier) (proof : List Value) (root leaf : Value) : Except Failure Bool :=
  verifyProof verifier.builder proof root leaf

def processMultiProof (verifier : Verifier) (proof flags leaves : List Value) (session : Session) :
    Except Failure Digest × Session :=
  let (limits, session) := verifier.limits session
  (limits.bind fun limits =>
    Inclusion.processMultiProof verifier.builder limits proof flags leaves, session)

def verifyMultiProof (verifier : Verifier) (proof flags : List Value) (root : Value)
    (leaves : List Value) (session : Session) : Outcome Bool × Session :=
  let (limits, session) := verifier.limits session
  match limits with
  | .ok limits =>
    (Inclusion.verifyMultiProof verifier.builder limits proof flags root leaves, session)
  | .error failure => (.quiet (.error failure), session)

end Verifier

def HashName.displayVerifier (name : HashName) : String := s!"Verifier(builder={name.display})"

end Inclusion
