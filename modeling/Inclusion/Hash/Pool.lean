import Inclusion.Hash.Builder

/-! Several hashers of one builder at work side by side, each under a name. An operation concerns the
one hasher that it names, and a name that was never made stands for a fresh hasher. -/

set_option autoImplicit false

namespace Inclusion

structure HasherPool (builder : HashBuilder) where
  hashers : List (String × builder.Hasher)

namespace HasherPool
variable {builder : HashBuilder}

inductive Operation where
  | make (name : String)
  | update (name : String) (octets : Octets)
  | finalize (name : String)
  deriving DecidableEq, Repr

def empty : HasherPool builder := ⟨[]⟩

def find (pool : HasherPool builder) (name : String) : builder.Hasher :=
  (pool.hashers.lookup name).getD builder.fresh

def put (pool : HasherPool builder) (name : String) (hasher : builder.Hasher) :
    HasherPool builder :=
  ⟨(name, hasher) :: pool.hashers⟩

/-- Perform one operation. Only finalizing gives octets, and an operation that is refused changes
nothing. -/
def perform (pool : HasherPool builder) :
    Operation → Except Failure (Option Octets) × HasherPool builder
  | .make name => (.ok none, pool.put name builder.fresh)
  | .update name octets =>
    match builder.update (pool.find name) octets with
    | .ok hasher => (.ok none, pool.put name hasher)
    | .error failure => (.error failure, pool)
  | .finalize name =>
    let (hasher, octets) := builder.finalize (pool.find name)
    (.ok (some octets), pool.put name hasher)

def performAll (pool : HasherPool builder) :
    List Operation → List (Except Failure (Option Octets)) × HasherPool builder
  | [] => ([], pool)
  | operation :: operations =>
    let (answer, pool) := pool.perform operation
    let (answers, pool) := pool.performAll operations
    (answer :: answers, pool)

@[simp] theorem find_put_self (pool : HasherPool builder) (name : String)
    (hasher : builder.Hasher) : (pool.put name hasher).find name = hasher := by
  simp [find, put]

theorem find_put_of_ne (pool : HasherPool builder) {name other : String}
    (hasher : builder.Hasher) (different : other ≠ name) :
    (pool.put name hasher).find other = pool.find other := by
  have unlike : (other == name) = false := beq_false_of_ne different
  simp [find, put, List.lookup_cons, unlike]

end HasherPool

end Inclusion
