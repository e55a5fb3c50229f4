import Inclusion.Json.Display

/-! What is told of an error: its class, the arguments it was made from, and the message and the
named attributes that these give. Classes form a hierarchy, in which the structural faults of a
multiproof are one branch and a denial is another. A class with a wording of its own takes as many
arguments as it names, and any other takes any number. -/

set_option autoImplicit false

namespace Inclusion

inductive ErrorClass where
  | value
  | type
  | attribute
  | validation
  | settings
  | merkleProof
  | multiProof
  | totalHashes
  | proofLength
  | rootChild
  | proofTooLarge
  | accessDenied
  deriving DecidableEq, Repr

namespace ErrorClass

def name : ErrorClass → String
  | .value => "ValueError"
  | .type => "TypeError"
  | .attribute => "AttributeError"
  | .validation => "ValidationError"
  | .settings => "SettingsError"
  | .merkleProof => "MerkleProofError"
  | .multiProof => "MultiProofError"
  | .totalHashes => "InvalidTotalHashesError"
  | .proofLength => "InvalidProofLengthError"
  | .rootChild => "InvalidRootChildError"
  | .proofTooLarge => "ProofTooLargeError"
  | .accessDenied => "AccessDenied"

def all : List ErrorClass :=
  [.value, .type, .attribute, .validation, .settings, .merkleProof, .multiProof, .totalHashes,
    .proofLength, .rootChild, .proofTooLarge, .accessDenied]

def ofName? (name : String) : Option ErrorClass := all.find? (·.name == name)

def lineage : ErrorClass → List ErrorClass
  | .merkleProof => [.merkleProof]
  | .multiProof => [.multiProof, .merkleProof]
  | .accessDenied => [.accessDenied, .merkleProof]
  | .totalHashes => [.totalHashes, .multiProof, .merkleProof]
  | .proofLength => [.proofLength, .multiProof, .merkleProof]
  | .rootChild => [.rootChild, .multiProof, .merkleProof]
  | .proofTooLarge => [.proofTooLarge, .multiProof, .merkleProof]
  | _ => []

def parameters? : ErrorClass → Option (List String)
  | .totalHashes => some ["leaves_len", "proof_len", "flags_len"]
  | .proofLength => some ["consumed", "proof_len"]
  | .rootChild => some ["step"]
  | .proofTooLarge => some ["field", "size", "limit"]
  | _ => none

end ErrorClass

inductive ArgumentError where
  | missing (errorClass : ErrorClass) (names : List String)
  | superfluous (errorClass : ErrorClass) (taken given : Nat)
  deriving DecidableEq, Repr

namespace ArgumentError

def enumerate : List String → String
  | [] => ""
  | [name] => name
  | [first, last] => s!"{first} and {last}"
  | names => String.intercalate ", " names.dropLast ++ ", and " ++ names.getLastD ""

/-- What is being made counts as an argument too where numbers are given. -/
def message : ArgumentError → String
  | .missing errorClass names =>
    let noun := if names.length == 1 then "argument" else "arguments"
    let listing := enumerate (names.map fun name => s!"'{name}'")
    s!"{errorClass.name}.__init__() missing {names.length} required positional {noun}: {listing}"
  | .superfluous errorClass taken given =>
    s!"{errorClass.name}.__init__() takes {taken + 1} positional arguments " ++
      s!"but {given + 1} were given"

end ArgumentError

structure Report where
  errorClass : ErrorClass
  arguments : List Json

namespace Report

def ofArguments (errorClass : ErrorClass) (arguments : List Json) : Except ArgumentError Report :=
  match errorClass.parameters? with
  | none => .ok ⟨errorClass, arguments⟩
  | some names =>
    if arguments.length < names.length then
      .error (.missing errorClass (names.drop arguments.length))
    else if names.length < arguments.length then
      .error (.superfluous errorClass names.length arguments.length)
    else .ok ⟨errorClass, arguments⟩

/-- The message of an error. Classes without a wording of their own show their arguments. -/
def message (report : Report) : String :=
  match report.errorClass, report.arguments with
  | .totalHashes, [leaves, proof, flags] =>
    s!"leaves ({leaves.display}) + proof ({proof.display}) - 1 != flags ({flags.display})"
  | .proofLength, [consumed, proof] =>
    s!"multiproof consumed {consumed.display} of {proof.display} proof nodes"
  | .rootChild, [step] =>
    s!"step {step.display} reads an intermediate hash that does not exist yet"
  | .proofTooLarge, [field, size, limit] =>
    s!"{field.display} has {size.display} entries, limit is {limit.display}"
  | _, [] => ""
  | _, [argument] => argument.display
  | _, arguments => "(" ++ String.intercalate ", " (arguments.map Json.quoted) ++ ")"

def attributes (report : Report) : List (String × Json) :=
  match report.errorClass.parameters? with
  | some names => names.zip report.arguments
  | none => []

end Report

end Inclusion
