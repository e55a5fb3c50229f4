import Inclusion.Text.Digits
import Inclusion.Text.Printable

/-! Quoted text for messages. A text is shown between single quotes, or between double quotes
when it holds single quotes and no double ones; what has no printed form is shown by number. -/

set_option autoImplicit false

namespace Inclusion.Text

def escapeNumber (code : Nat) : List Char :=
  if code < 0x100 then '\\' :: 'x' :: hexNumeral 2 code
  else if code < 0x10000 then '\\' :: 'u' :: hexNumeral 4 code
  else '\\' :: 'U' :: hexNumeral 8 code

def escapeWithin (quote character : Char) : List Char :=
  if character == '\\' || character == quote then ['\\', character]
  else if character == '\t' then ['\\', 't']
  else if character == '\n' then ['\\', 'n']
  else if character == '\r' then ['\\', 'r']
  else if isPrintable character then [character]
  else escapeNumber character.toNat

/-- Double quotes serve only where they save an escape. -/
def quoteFor (characters : List Char) : Char :=
  if characters.contains '\'' && !characters.contains '"' then '"' else '\''

def quote (text : String) : String :=
  let mark := quoteFor text.toList
  String.ofList (mark :: text.toList.flatMap (escapeWithin mark) ++ [mark])

/-- Octets between quotes: every octet outside printable ASCII is shown by number. -/
def quoteOctets (octets : List UInt8) : String :=
  let characters := octets.map fun octet => Char.ofNat octet.toNat
  let mark := quoteFor characters
  let escape (character : Char) : List Char :=
    if character.toNat < 0x7F then escapeWithin mark character else escapeNumber character.toNat
  String.ofList ('b' :: mark :: characters.flatMap escape ++ [mark])

end Inclusion.Text
