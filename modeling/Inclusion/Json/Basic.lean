import Inclusion.Binary64

/-! Documents in JSON. Integers are kept at any size, other numbers are doubles, and the entries
of an object keep their order and their repetitions. -/

set_option autoImplicit false

namespace Inclusion

inductive Json where
  | null
  | boolean (value : Bool)
  | integer (value : Int)
  | real (value : Binary64)
  | text (value : String)
  | list (items : List Json)
  | object (entries : List (String × Json))

namespace Json

structure Bounds where
  /-- Lists and objects that may be open around a value or a key. -/
  depth : Nat
  /-- Digits that a number may have before a point or an exponent. -/
  digits : Nat
  deriving DecidableEq, Repr

/-- The value of a key: of equal keys the last counts. -/
def lookup? {α : Type} (entries : List (String × α)) (key : String) : Option α :=
  entries.reverse.lookup key

/-- Each key once, where it came first, with the value that counts. -/
def distinct {α : Type} (entries : List (String × α)) : List (String × α) :=
  (entries.map Prod.fst).eraseDups.filterMap fun key =>
    (lookup? entries key).map fun value => (key, value)

end Json

end Inclusion
