import Inclusion.Text.Blank
import Inclusion.Text.Digits

/-! Integers written by people: white space around them, a sign, leading zeros, single underscores
between digits, and a point with nothing but zeros behind it are all accepted. Among leading zeros
underscores stand as they like, and a minus may come after such zeros instead of before them. -/

set_option autoImplicit false

namespace Inclusion.Numeral

def digitLimit : Nat := 4300

inductive Reading where
  | integer (value : Int)
  | malformed
  | tooLong
  deriving DecidableEq, Repr

/-- The part of a text from its first significant character on, for a text that goes on with zeros
and underscores after `previous`. Before a point and at the end one character of these is kept. -/
def dropZerosAfter (previous : Char) : List Char → Option (List Char)
  | [] => some [previous]
  | character :: rest =>
    if character == '0' || character == '_' then dropZerosAfter character rest
    else if character == '.' then some (previous :: character :: rest)
    else if character.isDigit || character == '-' then some (character :: rest)
    else none

def dropZeros : List Char → Option (List Char)
  | '0' :: rest => dropZerosAfter '0' rest
  | character :: rest =>
    if character.isDigit || character == '-' then some (character :: rest) else none
  | [] => none

def dropSigned : List Char → Option (List Char)
  | '+' :: '-' :: _ => none
  | '+' :: rest => dropZeros rest
  | '-' :: rest => (dropZeros rest).map ('-' :: ·)
  | characters => dropZeros characters

def dropFraction (characters : List Char) : List Char :=
  match characters.dropWhile (· != '.') with
  | _ :: zero :: zeros =>
    if (zero :: zeros).all (· == '0') then characters.takeWhile (· != '.') else characters
  | _ => characters

/-- Whether every underscore stands alone and between two other characters. -/
def separates : List Char → Bool
  | [] => true
  | ['_'] => false
  | '_' :: '_' :: _ => false
  | _ :: rest => separates rest

def dropUnderscores (characters : List Char) : List Char :=
  if characters.head? != some '_' && separates characters then characters.filter (· != '_')
  else characters

/-- A numeral in the strict form: a minus at most, and digits that start with a zero only if there is
no other. -/
def strict? (characters : List Char) : Option Int :=
  let (negative, digits) := match characters with
    | '-' :: rest => (true, rest)
    | _ => (false, characters)
  if digits.isEmpty || !digits.all Char.isDigit || digitLimit < digits.length ||
      (digits.head? == some '0' && digits.length != 1) then none
  else
    let magnitude := Text.decimalValue digits
    some (if negative then -(magnitude : Int) else magnitude)

/-- Whether a text starts, behind a minus at most, with a strict run of digits over the limit. What
comes after them, and whether it belongs to a numeral, makes no difference. -/
def startsTooLong (characters : List Char) : Bool :=
  let unsigned := match characters with
    | '-' :: rest => rest
    | _ => characters
  unsigned.head? != some '0' && digitLimit < (unsigned.takeWhile Char.isDigit).length

def read (text : String) : Reading :=
  if startsTooLong text.toList then .tooLong
  else
    let plain := (dropSigned (Text.trim Text.isWhiteSpace text.toList)).map fun characters =>
      dropUnderscores (dropFraction characters)
    match plain.bind strict? with
    | some value => .integer value
    | none => .malformed

end Inclusion.Numeral
