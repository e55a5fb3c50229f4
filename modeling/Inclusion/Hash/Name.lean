import Inclusion.Text.LowerCase

/-! The names of the hash functions that callers may ask for. Names are matched without regard to
letter case. -/

set_option autoImplicit false

namespace Inclusion

inductive HashName where
  | keccak256
  | sha256
  | sha3
  deriving DecidableEq, Repr

namespace HashName

def text : HashName → String
  | .keccak256 => "keccak256"
  | .sha256 => "sha256"
  | .sha3 => "sha3_256"

def all : List HashName := [.keccak256, .sha256, .sha3]

def standard : HashName := .keccak256

def listing : String := String.intercalate ", " (all.map text)

def ofText? (name : String) : Option HashName := all.find? (·.text == name)

def ofAnyCase? (name : String) : Option HashName := ofText? (Text.lowerCase name)

theorem ofText_text (name : HashName) : ofText? name.text = some name := by
  cases name <;> rfl

theorem ofText_eq_some_iff {text : String} {name : HashName} :
    ofText? text = some name ↔ text = name.text := by
  constructor
  · intro found
    exact (eq_of_beq (List.find?_some (p := fun name : HashName => name.text == text) found)).symm
  · rintro rfl
    exact ofText_text name

theorem lowerCase_text (name : HashName) : Text.lowerCase name.text = name.text := by
  cases name <;> decide +kernel

def display : HashName → String
  | .keccak256 => "KeccakBuilder()"
  | .sha256 => "Sha256Builder()"
  | .sha3 => "Sha3Builder()"

end HashName

end Inclusion
