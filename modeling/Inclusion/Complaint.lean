import Inclusion.Digest
import Inclusion.Hash.Name

/-! Complaints about documents and settings: which rule a value breaks, and at which place. A
reader collects the complaints of all fields instead of stopping at the first. -/

set_option autoImplicit false

namespace Inclusion

inductive Place where
  | field (name : String)
  | index (position : Nat)
  deriving DecidableEq, Repr

def Place.name : Place → String
  | .field name => name
  | .index position => toString position

inductive Fault where
  | notJson
  | notObject
  | missing
  | notString
  /-- Octets that are no UTF-8 where a text is expected. -/
  | notUtf8
  | notList
  | notBoolean
  | unknownBoolean
  | notInteger
  | fractional
  | infinite
  | unknownInteger
  | tooManyDigits
  | notPositive
  | digest (error : DigestError)
  | unknownHash
  deriving DecidableEq, Repr

namespace Fault

def word : Fault → String
  | .notJson => "json_invalid"
  | .notObject => "model_type"
  | .missing => "missing"
  | .notString => "string_type"
  | .notUtf8 => "string_unicode"
  | .notList => "list_type"
  | .notBoolean => "bool_type"
  | .unknownBoolean => "bool_parsing"
  | .notInteger => "int_type"
  | .fractional => "int_from_float"
  | .infinite => "finite_number"
  | .unknownInteger => "int_parsing"
  | .tooManyDigits => "int_parsing_size"
  | .notPositive => "greater_than"
  | .digest _ => "value_error"
  | .unknownHash => "value_error"

def note? : Fault → Option String
  | .digest error => some s!"Value error, {error.message}"
  | .unknownHash => some s!"Value error, must be one of {HashName.listing}"
  | _ => none

end Fault

structure Complaint where
  location : List Place
  fault : Fault
  deriving DecidableEq, Repr

namespace Complaint

def about (field : String) (fault : Fault) : Complaint := ⟨[.field field], fault⟩

def message (complaint : Complaint) : String :=
  let place := String.intercalate "." (complaint.location.map Place.name)
  let fault := complaint.fault.note?.getD complaint.fault.word
  if place.isEmpty then fault else s!"{place}: {fault}"

end Complaint

end Inclusion
