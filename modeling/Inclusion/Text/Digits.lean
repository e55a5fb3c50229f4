/-! Digits and the numbers that they write, in base ten and in base sixteen. Reading takes digits of
either case, and writing gives lower case. -/

set_option autoImplicit false

namespace Inclusion.Text

def decimalValue (digits : List Char) : Nat :=
  digits.foldl (fun total digit => 10 * total + (digit.toNat - 0x30)) 0

def hexDigit (value : Nat) : Char :=
  if value < 10 then Char.ofNat (0x30 + value) else Char.ofNat (0x57 + value)

def hexNumeral : Nat → Nat → List Char
  | 0, _ => []
  | width + 1, value => hexNumeral width (value / 16) ++ [hexDigit (value % 16)]

def hexDigitValue? (character : Char) : Option Nat :=
  let code := character.toNat
  if 0x30 ≤ code && code ≤ 0x39 then some (code - 0x30)
  else if 0x61 ≤ code && code ≤ 0x66 then some (code - 0x57)
  else if 0x41 ≤ code && code ≤ 0x46 then some (code - 0x37)
  else none

def hexValue? (digits : List Char) : Option Nat :=
  digits.foldlM (fun total digit => (hexDigitValue? digit).map (16 * total + ·)) 0

@[simp] theorem length_hexNumeral (width value : Nat) : (hexNumeral width value).length = width := by
  induction width generalizing value with
  | zero => rfl
  | succ width ih => simp [hexNumeral, ih]

theorem hexDigitValue_hexDigit {value : Nat} (small : value < 16) :
    hexDigitValue? (hexDigit value) = some value := by
  have all : ∀ digit ∈ List.range 16, hexDigitValue? (hexDigit digit) = some digit := by decide
  exact all value (List.mem_range.mpr small)

end Inclusion.Text
