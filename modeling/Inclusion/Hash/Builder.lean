import Inclusion.Failure
import Inclusion.Hash.Keccak
import Inclusion.Hash.Name
import Inclusion.Hash.Sha256

/-! Builders of hashers. Verification never picks a hash function: it is given a builder, feeds the
octets to be hashed to a fresh hasher of it, and takes what the hasher gives as a digest. -/

set_option autoImplicit false

namespace Inclusion

/-- A source of independent hashers. Octets may be refused, and what is finalized in the end may
have any width. -/
structure HashBuilder where
  Hasher : Type
  fresh : Hasher
  update : Hasher → Octets → Except Failure Hasher
  finalize : Hasher → Hasher × Octets

namespace HashBuilder

def feed (builder : HashBuilder) (hasher : builder.Hasher) :
    List Octets → Except Failure builder.Hasher
  | [] => .ok hasher
  | chunk :: chunks =>
    match builder.update hasher chunk with
    | .ok hasher => builder.feed hasher chunks
    | .error failure => .error failure

def accept (octets : Octets) : Except Failure Digest :=
  (Digest.ofOctets octets).mapError Failure.digest

def hash (builder : HashBuilder) (chunks : List Octets) : Except Failure Digest :=
  match builder.feed builder.fresh chunks with
  | .ok hasher => accept (builder.finalize hasher).2
  | .error failure => .error failure

def hashPair (builder : HashBuilder) (first second : Octets) : Except Failure Digest :=
  builder.hash [first, second]

/-- Hash two octet strings in ascending order, so that their order of arrival does not matter. -/
def hashSorted (builder : HashBuilder) (first second : Octets) : Except Failure Digest :=
  if first < second then builder.hashPair first second else builder.hashPair second first

def ofBlockHash (hash : BlockHash) : HashBuilder where
  Hasher := hash.Progress
  fresh := .start
  update := fun progress octets => .ok (progress.feed octets)
  finalize := fun progress => (progress, progress.finish)

/-- A block hash that finalizing seals: it refuses further octets, even none. -/
def sealing (hash : BlockHash) : HashBuilder where
  Hasher := hash.Progress × Bool
  fresh := (.start, false)
  update := fun (progress, done) octets =>
    if done then .error .sealed else .ok (progress.feed octets, false)
  finalize := fun (progress, _) => ((progress, true), progress.finish)

end HashBuilder

def HashName.builder : HashName → HashBuilder
  | .keccak256 => .sealing .keccak256
  | .sha256 => .ofBlockHash .sha256
  | .sha3 => .ofBlockHash .sha3

end Inclusion
