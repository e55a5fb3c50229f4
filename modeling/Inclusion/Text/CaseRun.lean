/-! Runs of letters in one case. Most letters change their case by the same distance as the letters
around them, so that the mapping of a whole alphabet is a few runs. -/

set_option autoImplicit false

namespace Inclusion.Text

/-- Letters at even distances whose images lie at the same distances from another start. -/
structure CaseRun where
  first : Nat
  last : Nat
  stride : Nat
  image : Nat
  deriving Repr, DecidableEq

namespace CaseRun

def covers (run : CaseRun) (code : Nat) : Bool :=
  run.first ≤ code && code ≤ run.last && (code - run.first) % run.stride == 0

def image? (runs : List CaseRun) (code : Nat) : Option Nat :=
  (runs.find? (·.covers code)).map fun run => run.image + (code - run.first)

end CaseRun

end Inclusion.Text
