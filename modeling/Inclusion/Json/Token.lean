import Inclusion.Json.Basic
import Inclusion.Text.Digits

/-! The tokens of a JSON text, found by a machine that takes one character at a time. Numbers and
words are collected up to the next delimiter and read as a whole. -/

set_option autoImplicit false

namespace Inclusion.Json

inductive Token where
  | openList
  | closeList
  | openObject
  | closeObject
  | comma
  | colon
  /-- A value that is no list and no object. -/
  | atom (value : Json)

def isSpace (character : Char) : Bool :=
  character == ' ' || character == '\t' || character == '\n' || character == '\r'

def punctuation? : Char → Option Token
  | '[' => some .openList
  | ']' => some .closeList
  | '{' => some .openObject
  | '}' => some .closeObject
  | ',' => some .comma
  | ':' => some .colon
  | _ => none

def isWordCharacter (character : Char) : Bool :=
  character.isAlphanum || character == '-' || character == '+' || character == '.'

/-! ## Numbers -/

def exponent? (characters : List Char) : Option Int :=
  let (negative, digits) := match characters with
    | '-' :: rest => (true, rest)
    | '+' :: rest => (false, rest)
    | _ => (false, characters)
  if digits.isEmpty || !digits.all Char.isDigit then none
  else
    let magnitude := Text.decimalValue digits
    some (if negative then -(magnitude : Int) else magnitude)

/-- A number without its sign. A fraction or an exponent makes it a double. -/
def unsigned? (digitLimit : Nat) (negative : Bool) (characters : List Char) : Option Json :=
  let whole := characters.takeWhile Char.isDigit
  let rest := characters.dropWhile Char.isDigit
  if whole.isEmpty || digitLimit < whole.length ||
      (whole.length != 1 && whole.head? == some '0') then none
  else
    let fraction := match rest with
      | '.' :: tail => tail.takeWhile Char.isDigit
      | _ => []
    let tail := match rest with
      | '.' :: tail => tail.dropWhile Char.isDigit
      | _ => rest
    if fraction.isEmpty && rest.head? == some '.' then none
    else
      let coefficient := Text.decimalValue (whole ++ fraction)
      match tail with
      | [] =>
        if fraction.isEmpty then
          some (.integer (if negative then -(coefficient : Int) else coefficient))
        else some (.real (.ofDecimal negative coefficient (-(fraction.length : Int))))
      | mark :: power =>
        if mark == 'e' || mark == 'E' then
          (exponent? power).map fun power =>
            .real (.ofDecimal negative coefficient (power - fraction.length))
        else none

def word? (digitLimit : Nat) (characters : List Char) : Option Json :=
  match String.ofList characters with
  | "null" => some .null
  | "true" => some (.boolean true)
  | "false" => some (.boolean false)
  | "NaN" => some (.real .notANumber)
  | "Infinity" => some (.real (.infinite false))
  | "-Infinity" => some (.real (.infinite true))
  | _ =>
    match characters with
    | '-' :: rest => unsigned? digitLimit true rest
    | _ => unsigned? digitLimit false characters

/-! ## Strings -/

def escaped? : Char → Option Char
  | '"' => some '"'
  | '\\' => some '\\'
  | '/' => some '/'
  | 'b' => some '\x08'
  | 'f' => some '\x0c'
  | 'n' => some '\n'
  | 'r' => some '\r'
  | 't' => some '\t'
  | _ => none

def isHighSurrogate (unit : Nat) : Bool := 0xD800 ≤ unit && unit < 0xDC00
def isLowSurrogate (unit : Nat) : Bool := 0xDC00 ≤ unit && unit < 0xE000

def joinSurrogates (high low : Nat) : Char :=
  Char.ofNat (0x10000 + (high - 0xD800) * 0x400 + (low - 0xDC00))

/-! ## The machine -/

/-- What the machine is in the middle of. Collected characters are held in reverse. -/
inductive Mode where
  | between
  | word (characters : List Char)
  | string (characters : List Char)
  | escape (characters : List Char)
  /-- Some digits of a numbered character; the first half of a pair may wait for the second. -/
  | unit (characters : List Char) (high : Option Nat) (digits : List Char)
  /-- A first half was read: a backslash must follow, and then the letter `u`. -/
  | half (characters : List Char) (high : Nat)
  | halfEscape (characters : List Char) (high : Nat)

structure Lexer where
  mode : Mode
  /-- The tokens found so far, in reverse. -/
  tokens : List Token

namespace Lexer

def start : Lexer := ⟨.between, []⟩

def emit (lexer : Lexer) (token : Token) : Lexer := ⟨.between, token :: lexer.tokens⟩

def openAt (lexer : Lexer) (character : Char) : Option Lexer :=
  if isSpace character then some { lexer with mode := .between }
  else if character == '"' then some { lexer with mode := .string [] }
  else if isWordCharacter character then some { lexer with mode := .word [character] }
  else (punctuation? character).map lexer.emit

def closeWord (digitLimit : Nat) (lexer : Lexer) : Option Lexer :=
  match lexer.mode with
  | .between => some lexer
  | .word characters =>
    (word? digitLimit characters.reverse).map fun value => lexer.emit (.atom value)
  | _ => none

def closeUnit (lexer : Lexer) (characters : List Char) (high : Option Nat) (unit : Nat) :
    Option Lexer :=
  match high with
  | some high =>
    if isLowSurrogate unit then
      some { lexer with mode := .string (joinSurrogates high unit :: characters) }
    else none
  | none =>
    if isHighSurrogate unit then some { lexer with mode := .half characters unit }
    else if isLowSurrogate unit then none
    else some { lexer with mode := .string (Char.ofNat unit :: characters) }

def step (digitLimit : Nat) (lexer : Lexer) (character : Char) : Option Lexer :=
  match lexer.mode with
  | .between => lexer.openAt character
  | .word characters =>
    if isWordCharacter character then some { lexer with mode := .word (character :: characters) }
    else lexer.closeWord digitLimit >>= (·.openAt character)
  | .string characters =>
    if character == '"' then some (lexer.emit (.atom (.text (String.ofList characters.reverse))))
    else if character == '\\' then some { lexer with mode := .escape characters }
    else if character.toNat < 0x20 then none
    else some { lexer with mode := .string (character :: characters) }
  | .escape characters =>
    if character == 'u' then some { lexer with mode := .unit characters none [] }
    else (escaped? character).map fun plain => { lexer with mode := .string (plain :: characters) }
  | .unit characters high digits =>
    let digits := digits ++ [character]
    if digits.length < 4 then some { lexer with mode := .unit characters high digits }
    else Text.hexValue? digits >>= lexer.closeUnit characters high
  | .half characters high =>
    if character == '\\' then some { lexer with mode := .halfEscape characters high } else none
  | .halfEscape characters high =>
    if character == 'u' then some { lexer with mode := .unit characters (some high) [] } else none

end Lexer

def tokens? (digitLimit : Nat) (characters : List Char) : Option (List Token) := do
  let lexer ← characters.foldlM (Lexer.step digitLimit) Lexer.start
  let lexer ← lexer.closeWord digitLimit
  return lexer.tokens.reverse

end Inclusion.Json
