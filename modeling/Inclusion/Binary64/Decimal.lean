import Inclusion.Binary64

/-! How doubles are shown in decimal: with the fewest digits that read back as the same double, and
of those digits with the nearest ones. -/

set_option autoImplicit false

namespace Inclusion

structure Decimal where
  coefficient : Nat
  exponent : Int
  deriving DecidableEq, Repr

namespace Decimal

def toBinary64 (decimal : Decimal) : Binary64 :=
  .ofDecimal false decimal.coefficient decimal.exponent

def ofBinary (mantissa : Nat) (exponent : Int) : Decimal :=
  if exponent < 0 then ⟨mantissa * Nat.pow 5 exponent.natAbs, exponent⟩
  else ⟨mantissa * Nat.pow 2 exponent.natAbs, 0⟩

def digits (decimal : Decimal) : List Char := Nat.toDigits 10 decimal.coefficient

/-- The numbers around a decimal that do without its last digits, beginning with the nearest. Of
two equally near ones the even one counts as the nearest. -/
def around (decimal : Decimal) (dropped : Nat) : List Decimal :=
  let unit := Nat.pow 10 dropped
  let below := decimal.coefficient / unit
  let nearest := Binary64.roundHalfEven decimal.coefficient unit
  [nearest, below, below + 1].map (⟨·, decimal.exponent + dropped⟩)

/-- The shortest decimal that reads back as the same double. All digits may be dropped, because the
next power of ten can be as near; and if none can be dropped then the decimal is left as it is. -/
def shorten (decimal : Decimal) : Decimal :=
  let readsBack (other : Decimal) : Bool := other.toBinary64 == decimal.toBinary64
  let counts := (List.range (decimal.digits.length + 1)).reverse
  (counts.findSome? fun dropped => (decimal.around dropped).find? readsBack).getD decimal

/-! ## Layout -/

/-- The powers of ten of the first digit from and up to which a number is written without one. -/
def leastPlain : Int := -4
def greatestPlain : Int := 15

def magnitude (decimal : Decimal) : Int := decimal.exponent + decimal.digits.length - 1

def zeros (count : Nat) : List Char := List.replicate count '0'

def placePoint (digits : List Char) (whole : Int) : List Char :=
  if whole ≤ 0 then '0' :: '.' :: (zeros whole.natAbs ++ digits)
  else
    let missing := whole.toNat - digits.length
    let fraction := digits.drop whole.toNat
    digits.take whole.toNat ++ zeros missing ++
      '.' :: (if fraction.isEmpty then ['0'] else fraction)

def exponentMark (power : Int) : List Char :=
  let digits := Nat.toDigits 10 power.natAbs
  'e' :: (if power < 0 then '-' else '+') :: (zeros (2 - digits.length) ++ digits)

def scientific (digits : List Char) (power : Int) : List Char :=
  let mantissa := match digits with
    | first :: second :: rest => first :: '.' :: second :: rest
    | digits => digits
  mantissa ++ exponentMark power

def display (decimal : Decimal) : String :=
  String.ofList <|
    if decimal.coefficient == 0 then ['0', '.', '0']
    else if leastPlain ≤ decimal.magnitude && decimal.magnitude ≤ greatestPlain then
      placePoint decimal.digits (decimal.magnitude + 1)
    else scientific decimal.digits decimal.magnitude

end Decimal

def Binary64.display : Binary64 → String
  | .finite negative mantissa exponent =>
    (if negative then "-" else "") ++ (Decimal.ofBinary mantissa exponent).shorten.display
  | .infinite negative => if negative then "-inf" else "inf"
  | .notANumber => "nan"

end Inclusion
