import Inclusion.Binary64
import Inclusion.Digest

/-! The values that callers hand over where a digest or a flag is expected. Every value has a kind,
by which messages speak of it, and a truth, by which a flag is read. -/

set_option autoImplicit false

namespace Inclusion

/-- The three sorts of raw octet buffers: one that never changes, one that can be changed, and a
window on another. -/
inductive Buffer where
  | fixed
  | growable
  | view
  deriving DecidableEq, Repr

inductive Value where
  | text (content : String)
  | buffer (sort : Buffer) (content : Octets)
  | digest (content : Digest)
  | integer (content : Int)
  | float (content : Binary64)
  | boolean (content : Bool)
  | null
  /-- A sequence or a mapping, of which only the number of entries matters. -/
  | list (size : Nat)
  | mapping (size : Nat)
  deriving DecidableEq

inductive Kind where
  | text
  | buffer (sort : Buffer)
  | digest
  | integer
  | float
  | boolean
  | null
  | list
  | mapping
  deriving DecidableEq, Repr

def Kind.name : Kind → String
  | .text => "str"
  | .buffer .fixed => "bytes"
  | .buffer .growable => "bytearray"
  | .buffer .view => "memoryview"
  | .digest => "Digest"
  | .integer => "int"
  | .float => "float"
  | .boolean => "bool"
  | .null => "NoneType"
  | .list => "list"
  | .mapping => "dict"

namespace Value

def kind : Value → Kind
  | .text _ => .text
  | .buffer sort _ => .buffer sort
  | .digest _ => .digest
  | .integer _ => .integer
  | .float _ => .float
  | .boolean _ => .boolean
  | .null => .null
  | .list _ => .list
  | .mapping _ => .mapping

/-- Zero, emptiness and absence are false, and everything else is true. -/
def truth : Value → Bool
  | .text content => !content.isEmpty
  | .buffer _ content => !content.isEmpty
  | .digest _ => true
  | .integer content => content != 0
  | .float content => !content.isZero
  | .boolean content => content
  | .null => false
  | .list size => size != 0
  | .mapping size => size != 0

def octets? : Value → Option Octets
  | .buffer _ content => some content
  | .digest content => some content.octets
  | _ => none

end Value

end Inclusion
