import Inclusion.Binary64.Decimal
import Inclusion.Json.Basic
import Inclusion.Text.Digits

/-! How JSON is written: on one line, in ASCII, and doubles with the fewest digits that read back. -/

set_option autoImplicit false

namespace Inclusion.Json

/-- A character of a string; what lies outside ASCII is written in units of sixteen bits. -/
def escape (character : Char) : List Char :=
  let code := character.toNat
  let unit (value : Nat) : List Char := '\\' :: 'u' :: Text.hexNumeral 4 value
  if character == '"' || character == '\\' then ['\\', character]
  else if 0x20 ≤ code && code < 0x7F then [character]
  else if code < 0x10000 then unit code
  else unit (0xD800 + (code - 0x10000) / 0x400) ++ unit (0xDC00 + (code - 0x10000) % 0x400)

def renderText (text : String) : String :=
  String.ofList ('"' :: text.toList.flatMap escape ++ ['"'])

def renderReal : Binary64 → String
  | .infinite negative => if negative then "-Infinity" else "Infinity"
  | .notANumber => "NaN"
  | value => value.display

mutual

def render : Json → String
  | .null => "null"
  | .boolean value => if value then "true" else "false"
  | .integer value => toString value
  | .real value => renderReal value
  | .text value => renderText value
  | .list items => "[" ++ String.intercalate "," (renderItems items) ++ "]"
  | .object entries => "\x7b" ++ String.intercalate "," (renderEntries entries) ++ "\x7d"

def renderItems : List Json → List String
  | [] => []
  | item :: items => item.render :: renderItems items

def renderEntries : List (String × Json) → List String
  | [] => []
  | (key, value) :: entries => (renderText key ++ ":" ++ value.render) :: renderEntries entries

end

end Inclusion.Json
