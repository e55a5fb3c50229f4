/-! Numbers in the 64-bit binary floating format, with exact arithmetic only. A decimal is taken
to the nearest such number, and of two equally near ones to that with the even mantissa. -/

set_option autoImplicit false

namespace Inclusion

inductive Binary64 where
  /-- The number `mantissa * 2 ^ exponent`, with a sign that zero has too. -/
  | finite (negative : Bool) (mantissa : Nat) (exponent : Int)
  | infinite (negative : Bool)
  | notANumber
  deriving DecidableEq, Repr

namespace Binary64

def precision : Nat := 53

def leastExponent : Int := -1074
def greatestExponent : Int := 971

def roundHalfEven (numerator denominator : Nat) : Nat :=
  let quotient := numerator / denominator
  let twice := 2 * (numerator % denominator)
  if twice < denominator then quotient
  else if denominator < twice then quotient + 1
  else quotient + quotient % 2

def scale (numerator denominator : Nat) (exponent : Int) : Nat × Nat :=
  if exponent < 0 then (numerator * Nat.pow 2 exponent.natAbs, denominator)
  else (numerator, denominator * Nat.pow 2 exponent.natAbs)

def ofQuotient (negative : Bool) (numerator denominator : Nat) : Binary64 :=
  let estimate := (numerator.log2 : Int) - denominator.log2 - precision
  let scaled := scale numerator denominator estimate
  let normal := if scaled.1 / scaled.2 < Nat.pow 2 precision then estimate else estimate + 1
  let exponent := max leastExponent normal
  let (numerator, denominator) := scale numerator denominator exponent
  let rounded := roundHalfEven numerator denominator
  let (mantissa, exponent) :=
    if rounded == Nat.pow 2 precision then (rounded / 2, exponent + 1) else (rounded, exponent)
  if greatestExponent < exponent then .infinite negative else .finite negative mantissa exponent

/-- The number nearest to `coefficient * 10 ^ exponent`. Exponents far outside the range of the
format are decided without raising ten to them. -/
def ofDecimal (negative : Bool) (coefficient : Nat) (exponent : Int) : Binary64 :=
  if coefficient == 0 then .finite negative 0 0
  else if 310 < exponent then .infinite negative
  else if (coefficient.log2 : Int) + 1 + 3 * exponent < -1100 then .finite negative 0 0
  else if exponent < 0 then ofQuotient negative coefficient (Nat.pow 10 exponent.natAbs)
  else ofQuotient negative (coefficient * Nat.pow 10 exponent.natAbs) 1

def isZero : Binary64 → Bool
  | .finite _ mantissa _ => mantissa == 0
  | _ => false

def isFinite : Binary64 → Bool
  | .finite .. => true
  | _ => false

def toInt? : Binary64 → Option Int
  | .finite negative mantissa exponent =>
    let sign : Int := if negative then -1 else 1
    if 0 ≤ exponent then some (sign * (mantissa * Nat.pow 2 exponent.natAbs : Nat))
    else if mantissa % Nat.pow 2 exponent.natAbs == 0 then
      some (sign * (mantissa / Nat.pow 2 exponent.natAbs : Nat))
    else none
  | _ => none

/-- Integers that doubles stand for without doubt: the least of sixty-four bits is not among them,
because it is also the nearest double to integers that have more. -/
def isWord (whole : Int) : Bool := whole.natAbs < Nat.pow 2 63

end Binary64

end Inclusion
