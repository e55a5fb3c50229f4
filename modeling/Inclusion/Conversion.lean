import Inclusion.Failure

/-! What values can be taken for: digests, spellings of digests, operands of a comparison and names
of hash functions. A value of the wrong kind is refused by its kind, before its content is read. -/

set_option autoImplicit false

namespace Inclusion

namespace Value

def toDigest : Value → Except Failure Digest
  | .digest content => .ok content
  | .buffer _ content => (Digest.ofOctets content).mapError .digest
  | .text content => (Digest.ofHex content).mapError .digest
  | value => .error (.notDigestLike value.kind)

/-- Read a value that has to be a spelling. Buffers of octets can be trimmed, but they spell no
digest; whatever else is no text cannot even be trimmed. -/
def spelledDigest : Value → Except Failure Digest
  | .text content => (Digest.ofHex content).mapError .digest
  | .buffer .fixed _ | .digest _ => .error (.hexOfOctets (.buffer .fixed))
  | .buffer .growable _ => .error (.hexOfOctets (.buffer .growable))
  | value => .error (.lacks value.kind "strip")

def toHashName : Value → Except Failure HashName
  | .text content =>
    match HashName.ofAnyCase? content with
    | some name => .ok name
    | none => .error (.unknownHash (Text.quote content))
  | .buffer .fixed content => .error (.unknownHash (Text.quoteOctets content))
  | .digest content => .error (.unknownHash content.display)
  | .buffer .growable _ => .error (.unhashable (.buffer .growable))
  | value => .error (.lacks value.kind "lower")

/-- Whether the octets of two values can be ordered: fixed ones with each other, and a growable
buffer with any. -/
def orderable : Kind → Kind → Bool
  | .buffer .growable, .digest | .buffer .growable, .buffer _ => true
  | .digest, .buffer .growable | .buffer _, .buffer .growable => true
  | .digest, .digest | .digest, .buffer .fixed | .buffer .fixed, .digest => true
  | .buffer .fixed, .buffer .fixed => true
  | _, _ => false

def orderedOctets (left right : Value) : Except Failure (Octets × Octets) :=
  match orderable left.kind right.kind, left.octets?, right.octets? with
  | true, some first, some second => .ok (first, second)
  | _, _, _ => .error (.unordered left.kind right.kind)

end Value

structure Comparison where
  equal : Bool
  less : Bool
  greater : Bool
  deriving DecidableEq, Repr

namespace Comparison

def of (left right : Octets) : Comparison :=
  ⟨left == right, left < right, right < left⟩

def unequal (comparison : Comparison) : Bool := !comparison.equal
def atMost (comparison : Comparison) : Bool := comparison.less || comparison.equal
def atLeast (comparison : Comparison) : Bool := comparison.greater || comparison.equal

end Comparison

end Inclusion
