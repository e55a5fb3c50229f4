import Inclusion.Binary64.Decimal
import Inclusion.Json.Basic
import Inclusion.Text.Quoted

/-! How JSON values are shown in messages. A text stands for itself; within a list or an object it
is quoted, so that it is told from other values. -/

set_option autoImplicit false

namespace Inclusion.Json

mutual

/-- A value among others. -/
def quoted : Json → String
  | .null => "None"
  | .boolean value => if value then "True" else "False"
  | .integer value => toString value
  | .real value => value.display
  | .text value => Text.quote value
  | .list items => "[" ++ String.intercalate ", " (quotedItems items) ++ "]"
  | .object entries =>
    let shown := (distinct (quotedEntries entries)).map fun (key, value) =>
      Text.quote key ++ ": " ++ value
    "\x7b" ++ String.intercalate ", " shown ++ "\x7d"

def quotedItems : List Json → List String
  | [] => []
  | item :: items => item.quoted :: quotedItems items

def quotedEntries : List (String × Json) → List (String × String)
  | [] => []
  | (key, value) :: entries => (key, value.quoted) :: quotedEntries entries

end

def display : Json → String
  | .text value => value
  | value => value.quoted

end Inclusion.Json
