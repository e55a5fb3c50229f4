import Inclusion.Failure
import Inclusion.Hash.Builder

/-! The steps of a multiproof. Each hashes two values: the first is the next pending one, that is, the
next leaf and after the leaves the next hash made, and a flag says whether the second is pending too
or a node of the proof. -/

set_option autoImplicit false

namespace Inclusion

structure Supply where
  leaves : Array Digest
  nodes : Array Digest

/-- How far each sequence has been read, and the hashes made so far. -/
structure Cursors where
  leaf : Nat
  hash : Nat
  node : Nat
  hashes : Array Digest

namespace Cursors

def start : Cursors := ⟨0, 0, 0, #[]⟩

def nextPending (supply : Supply) (step : Nat) (cursors : Cursors) :
    Except Failure (Digest × Cursors) :=
  match supply.leaves[cursors.leaf]? with
  | some leaf => .ok (leaf, { cursors with leaf := cursors.leaf + 1 })
  | none =>
    match cursors.hashes[cursors.hash]? with
    | some hash => .ok (hash, { cursors with hash := cursors.hash + 1 })
    | none => .error (.multiProof (.rootChild step))

def nextNode (supply : Supply) (cursors : Cursors) : Except Failure (Digest × Cursors) :=
  match supply.nodes[cursors.node]? with
  | some node => .ok (node, { cursors with node := cursors.node + 1 })
  | none => .error (.multiProof (.proofLength (cursors.node + 1) supply.nodes.size))

def nextFlagged (supply : Supply) (step : Nat) (flag : Bool) (cursors : Cursors) :
    Except Failure (Digest × Cursors) :=
  if flag then cursors.nextPending supply step else cursors.nextNode supply

def draw (supply : Supply) (step : Nat) (flag : Bool) (cursors : Cursors) :
    Except Failure ((Digest × Digest) × Cursors) := do
  let (first, cursors) ← cursors.nextPending supply step
  let (second, cursors) ← cursors.nextFlagged supply step flag
  return ((first, second), cursors)

def advance (builder : HashBuilder) (supply : Supply) (step : Nat) (flag : Bool)
    (cursors : Cursors) : Except Failure Cursors := do
  let ((first, second), cursors) ← cursors.draw supply step flag
  let made ← builder.hashSorted first.octets second.octets
  return { cursors with hashes := cursors.hashes.push made }

def run (builder : HashBuilder) (supply : Supply) :
    Nat → List Bool → Cursors → Except Failure Cursors
  | _, [], cursors => .ok cursors
  | step, flag :: flags, cursors => do
    let cursors ← cursors.advance builder supply step flag
    run builder supply (step + 1) flags cursors

/-- The last hash made, provided that the whole proof was read. -/
def conclude (supply : Supply) (cursors : Cursors) : Except Failure (Option Digest) :=
  if cursors.node == supply.nodes.size then .ok cursors.hashes.back?
  else .error (.multiProof (.proofLength cursors.node supply.nodes.size))

end Cursors

def combine (builder : HashBuilder) (supply : Supply) (flags : List Bool) :
    Except Failure (Option Digest) := do
  let cursors ← Cursors.start.run builder supply 0 flags
  cursors.conclude supply

end Inclusion
