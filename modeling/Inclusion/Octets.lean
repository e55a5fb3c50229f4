import Inclusion.Text.Blank
import Inclusion.Text.Digits

/-! Strings of octets: their hexadecimal spelling, how such a spelling is read, and the number
that they encode. Octet strings are ordered like words in a dictionary. -/

set_option autoImplicit false

namespace Inclusion

abbrev Octets := List UInt8

namespace Octets
open Text (hexDigit hexDigitValue? hexDigitValue_hexDigit isAsciiBlank)

def hexDigits (octets : Octets) : List Char :=
  octets.flatMap fun octet => [hexDigit (octet.toNat / 16), hexDigit (octet.toNat % 16)]

def toHex (octets : Octets) : String := String.ofList octets.hexDigits

/-- Read pairs of digits. ASCII blanks may stand around a pair but not inside one. -/
def ofHexDigits? : List Char → Option Octets
  | [] => some []
  | first :: rest =>
    if isAsciiBlank first then ofHexDigits? rest
    else match rest with
      | [] => none
      | second :: rest =>
        match hexDigitValue? first, hexDigitValue? second with
        | some high, some low => (ofHexDigits? rest).map (UInt8.ofNat (16 * high + low) :: ·)
        | _, _ => none

def ofText (text : String) : Octets := text.toUTF8.data.toList

def toText? (octets : Octets) : Option String := String.fromUTF8? ⟨octets.toArray⟩

theorem toText_eq_some_iff {octets : Octets} {text : String} :
    octets.toText? = some text ↔ ofText text = octets := by
  unfold toText? String.fromUTF8?
  constructor
  · intro read
    split at read
    next valid =>
      cases read
      rfl
    next => cases read
  · rintro rfl
    have whole : (⟨(ofText text).toArray⟩ : ByteArray) = text.toUTF8 := by simp [ofText]
    rw [whole, String.toUTF8_eq_toByteArray, dif_pos text.isValidUTF8]
    rfl

def value (octets : Octets) : Nat :=
  octets.foldl (fun total octet => 256 * total + octet.toNat) 0

@[simp] theorem hexDigits_nil : hexDigits [] = [] := rfl

@[simp] theorem hexDigits_cons (octet : UInt8) (rest : Octets) :
    hexDigits (octet :: rest) =
      hexDigit (octet.toNat / 16) :: hexDigit (octet.toNat % 16) :: hexDigits rest := rfl

theorem isAsciiBlank_hexDigit {value : Nat} (small : value < 16) :
    isAsciiBlank (hexDigit value) = false := by
  have all : ∀ digit ∈ List.range 16, isAsciiBlank (hexDigit digit) = false := by decide
  exact all value (List.mem_range.mpr small)

theorem ofHexDigits_hexDigits (octets : Octets) :
    ofHexDigits? octets.hexDigits = some octets := by
  induction octets with
  | nil => rfl
  | cons octet rest ih =>
    have bound := octet.toNat_lt
    have high : octet.toNat / 16 < 16 := by omega
    have low : octet.toNat % 16 < 16 := Nat.mod_lt _ (by omega)
    have whole : 16 * (octet.toNat / 16) + octet.toNat % 16 = octet.toNat := Nat.div_add_mod _ _
    simp [ofHexDigits?, isAsciiBlank_hexDigit high, hexDigitValue_hexDigit high, hexDigitValue_hexDigit low, ih,
      whole]

end Octets

end Inclusion
