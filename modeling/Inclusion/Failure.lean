import Inclusion.Complaint
import Inclusion.Report
import Inclusion.Value

/-! Everything that can go wrong, by cause. A proof that leads to another root is no failure: these
are proofs of the wrong shape, values that are no digests, denials, and unusable settings. -/

set_option autoImplicit false

namespace Inclusion

inductive Part where
  | leaves
  | proof
  | flags
  deriving DecidableEq, Repr

def Part.name : Part → String
  | .leaves => "leaves"
  | .proof => "proof"
  | .flags => "flags"

inductive MultiProofError where
  /-- The numbers of values and of steps do not fit each other. -/
  | totalHashes (leaves proof flags : Nat)
  /-- The steps ask for more proof nodes than there are, or for fewer. -/
  | proofLength (consumed proof : Nat)
  /-- A step reads a hash that no earlier step has made. -/
  | rootChild (step : Nat)
  | tooLarge (part : Part) (size limit : Nat)
  deriving DecidableEq, Repr

namespace MultiProofError

def report : MultiProofError → Report
  | .totalHashes leaves proof flags =>
    ⟨.totalHashes, [.integer leaves, .integer proof, .integer flags]⟩
  | .proofLength consumed proof => ⟨.proofLength, [.integer consumed, .integer proof]⟩
  | .rootChild step => ⟨.rootChild, [.integer step]⟩
  | .tooLarge part size limit =>
    ⟨.proofTooLarge, [.text part.name, .integer size, .integer limit]⟩

def message (error : MultiProofError) : String := error.report.message

end MultiProofError

inductive Denial where
  | leaf (digest : Digest)
  | batch (leaves : Nat)
  | malformed (cause : MultiProofError)
  deriving DecidableEq

def Denial.message : Denial → String
  | .leaf digest => s!"{digest.toHex} is not in the allowlist"
  | .batch leaves => s!"{leaves} leaves are not all in the allowlist"
  | .malformed cause => s!"malformed multiproof: {cause.message}"

inductive Failure where
  | notDigestLike (kind : Kind)
  | digest (error : DigestError)
  | multiProof (error : MultiProofError)
  | denied (denial : Denial)
  | invalid (complaints : List Complaint)
  | flagNotBoolean (kind : Kind)
  | unordered (left right : Kind)
  /-- A value without an operation that only texts have. -/
  | lacks (kind : Kind) (operation : String)
  | hexOfOctets (kind : Kind)
  | unhashable (kind : Kind)
  /-- A name of no hash function, as quoted in the message. -/
  | unknownHash (quoted : String)
  /-- A sealed hasher was given more octets. -/
  | sealed
  /-- A field has the name of a parameter of the operation that makes an event. -/
  | reservedField (operation name : String)
  | unknownLevel
  | nulInPath
  | arguments (error : ArgumentError)
  /-- A value that has no length was given where a text is expected. -/
  | noLength (kind : Kind)
  /-- No variable of the environment can be named for a field. -/
  | unreadableField (name : String)
  deriving DecidableEq

namespace Failure

def errorClass : Failure → ErrorClass
  | .notDigestLike _ | .flagNotBoolean _ | .unordered _ _ | .hexOfOctets _ | .unhashable _
  | .sealed | .reservedField _ _ | .arguments _ | .noLength _ => .type
  | .digest _ | .unknownHash _ | .unknownLevel | .nulInPath => .value
  | .lacks _ _ => .attribute
  | .multiProof error => error.report.errorClass
  | .denied _ => .accessDenied
  | .invalid _ => .validation
  | .unreadableField _ => .settings

def message : Failure → String
  | .notDigestLike kind => s!"Digest expects bytes or a hex string, got {kind.name}"
  | .digest error => error.message
  | .multiProof error => error.message
  | .denied denial => denial.message
  | .invalid complaints => String.intercalate "\n" (complaints.map Complaint.message)
  | .flagNotBoolean kind => s!"MultiProof flags must be bool, got {kind.name}"
  | .unordered left right =>
    s!"'<' not supported between instances of '{left.name}' and '{right.name}'"
  | .lacks kind operation => s!"'{kind.name}' object has no attribute '{operation}'"
  | .hexOfOctets kind => s!"fromhex() argument must be str, not {kind.name}"
  | .unhashable kind => s!"unhashable type: '{kind.name}'"
  | .unknownHash quoted =>
    s!"Unknown hash function {quoted}; expected one of {HashName.listing}"
  | .sealed => "You can only call 'digest' or 'hexdigest' on this object"
  | .reservedField operation name =>
    s!"BoundLogger.{operation}() got multiple values for argument '{name}'"
  | .unknownLevel => "Unable to configure handler 'default'"
  | .nulInPath => "embedded null byte"
  | .arguments error => error.message
  | .noLength kind => s!"object of type '{kind.name}' has no len()"
  | .unreadableField name =>
    s!"error getting value for field \"{name}\" from source \"EnvSettingsSource\""

/-- The error of its own that a failure was caused by. -/
def cause? : Failure → Option MultiProofError
  | .denied (.malformed cause) => some cause
  | _ => none

def attributes : Failure → List (String × Json)
  | .multiProof error => error.report.attributes
  | _ => []

end Failure

end Inclusion
