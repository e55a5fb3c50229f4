import Inclusion.Verifier

/-! Multiproofs as values of their own: the proof nodes, already digests, and the flags, already
truth values. Two are equal when they hold the same nodes and the same flags. -/

set_option autoImplicit false

namespace Inclusion

structure MultiProof where
  proof : List Digest
  flags : List Bool
  deriving DecidableEq

namespace MultiProof

def strictFlag : Value → Except Failure Bool
  | .boolean content => .ok content
  | value => .error (.flagNotBoolean value.kind)

/-- All nodes are read before any flag. -/
def ofValues (proof flags : List Value) : Except Failure MultiProof := do
  let proof ← proof.mapM Value.toDigest
  let flags ← flags.mapM strictFlag
  return ⟨proof, flags⟩

def proofValues (multiProof : MultiProof) : List Value := multiProof.proof.map .digest

def flagValues (multiProof : MultiProof) : List Value := multiProof.flags.map .boolean

def verify (multiProof : MultiProof) (builder : HashBuilder) (root : Value) (leaves : List Value)
    (session : Session) : Outcome Bool × Session :=
  Verifier.verifyMultiProof ⟨builder, none⟩ multiProof.proofValues multiProof.flagValues root leaves
    session

def process (multiProof : MultiProof) (builder : HashBuilder) (leaves : List Value)
    (session : Session) : Except Failure Digest × Session :=
  Verifier.processMultiProof ⟨builder, none⟩ multiProof.proofValues multiProof.flagValues leaves
    session

/-- Entries in parentheses; a single entry is followed by a comma. -/
def displayEntries : List String → String
  | [entry] => "(" ++ entry ++ ",)"
  | entries => "(" ++ String.intercalate ", " entries ++ ")"

def display (multiProof : MultiProof) : String :=
  let proof := displayEntries (multiProof.proof.map Digest.display)
  let flags := displayEntries (multiProof.flags.map fun flag => if flag then "True" else "False")
  s!"MultiProof(proof={proof}, flags={flags})"

end MultiProof

end Inclusion
