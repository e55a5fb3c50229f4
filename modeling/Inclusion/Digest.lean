import Inclusion.Octets
import Inclusion.Text.Quoted

/-! Digests: octet strings of the one width that every hash in this library has. The width is part
of the type, so that the order of digests is the order of the numbers they encode. -/

set_option autoImplicit false

namespace Inclusion

def digestWidth : Nat := 32

structure Digest where
  octets : Octets
  width : octets.length = digestWidth
  deriving DecidableEq

inductive DigestError where
  | malformed (source : String)
  | wrongWidth (octets : Nat)
  deriving DecidableEq, Repr

def DigestError.message : DigestError → String
  | .malformed source => s!"Invalid hex digest: {Text.quote source}"
  | .wrongWidth octets => s!"Digest must be {digestWidth} bytes, got {octets}"

namespace Digest

theorem ext_octets {first second : Digest} (same : first.octets = second.octets) :
    first = second := by
  cases first
  cases second
  simp only at same
  subst same
  rfl

instance : LT Digest := ⟨fun first second => first.octets < second.octets⟩

instance (first second : Digest) : Decidable (first < second) :=
  inferInstanceAs (Decidable (first.octets < second.octets))

def ofOctets (octets : Octets) : Except DigestError Digest :=
  if width : octets.length = digestWidth then .ok ⟨octets, width⟩
  else .error (.wrongWidth octets.length)

@[simp] theorem ofOctets_octets (digest : Digest) : ofOctets digest.octets = .ok digest := by
  simp [ofOctets, digest.width]

def dropRadix : List Char → List Char
  | '0' :: 'x' :: rest => rest
  | '0' :: 'X' :: rest => rest
  | characters => characters

def readHex (source : String) : Except DigestError Octets :=
  match Octets.ofHexDigits? (dropRadix (Text.trim Text.isBlank source.toList)) with
  | some octets => .ok octets
  | none => .error (.malformed source)

def ofHex (source : String) : Except DigestError Digest :=
  readHex source >>= ofOctets

def bareHex (digest : Digest) : String := digest.octets.toHex

/-- The canonical spelling: a radix mark and sixty-four digits in lower case. -/
def toHex (digest : Digest) : String := "0x" ++ digest.bareHex

def value (digest : Digest) : Nat := digest.octets.value

def zero : Digest := ⟨List.replicate digestWidth 0, List.length_replicate⟩

def display (digest : Digest) : String := s!"Digest({digest.toHex})"

def sort (digests : List Digest) : List Digest :=
  digests.mergeSort fun first second => !(second < first)

end Digest

end Inclusion
