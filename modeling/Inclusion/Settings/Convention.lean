import Inclusion.Failure
import Inclusion.Text.LowerCase

/-! The environment, and the convention by which settings are read from it. A variable is named for
a field with a lead before it. Arguments may ask for another convention than the standard one, and
those that make no sense are refused before any variable is read. Other sources that arguments may name,
such as files, are not modelled. -/

set_option autoImplicit false

namespace Inclusion

/-- Variables and their texts, in the order in which they were first set. -/
abbrev Environment := List (String × String)

def sameName (first second : String) : Bool := Text.lowerCase first == Text.lowerCase second

def lookupName? {α : Type} (entries : List (String × α)) (name : String) : Option α :=
  (entries.find? fun entry => sameName entry.1 name).map Prod.snd

namespace Environment

def assign (environment : Environment) (name text : String) : Environment :=
  if environment.any fun entry => entry.1 == name then
    environment.map fun entry => if entry.1 == name then (name, text) else entry
  else environment ++ [(name, text)]

def remove (environment : Environment) (name : String) : Environment :=
  environment.filter fun entry => entry.1 != name

end Environment

namespace Settings

def leavesField : String := "MAX_LEAVES"
def proofField : String := "MAX_PROOF_LENGTH"
def flagsField : String := "MAX_FLAGS"
def hashField : String := "DEFAULT_HASHER"
def levelField : String := "LOG_LEVEL"

structure Convention where
  /-- What stands before the name of a field. -/
  lead : String
  /-- Whether letter case matters. -/
  caseSensitive : Bool
  /-- Whether a variable set to an empty text counts as not given. -/
  ignoresEmpty : Bool
  /-- A text that stands for no value at all. -/
  nothing : Option String
  deriving DecidableEq, Repr

namespace Convention

def standard : Convention := ⟨"MERKLE_", false, false, none⟩

/-! ## The convention that arguments ask for

The names of these arguments are told by letter case, and no value at all asks for nothing. -/

def wish? (arguments : List (String × Value)) (name : String) : Option Value :=
  (arguments.lookup name).filter (· != .null)

/-- Whether names of variables have the lead: it may be meant for other names alone. -/
def leads (arguments : List (String × Value)) : Bool :=
  match wish? arguments "_env_prefix_target" with
  | none => true
  | some target => target == .text "variable" || target == .text "all"

/-- The lead asked for. It must have a length, and a text is all that fits before a name. -/
def leadOf (arguments : List (String × Value)) : Except Failure String :=
  match wish? arguments "_env_prefix" with
  | none => .ok (if leads arguments then standard.lead else "")
  | some (.text content) => .ok (if leads arguments then content else "")
  | some (.integer _) => .error (.noLength .integer)
  | some (.float _) => .error (.noLength .float)
  | some (.boolean _) => .error (.noLength .boolean)
  | some _ => if leads arguments then .error (.unreadableField leavesField) else .ok ""

def ofArguments (arguments : List (String × Value)) : Except Failure Convention := do
  return {
    lead := ← leadOf arguments
    caseSensitive := ((wish? arguments "_case_sensitive").map Value.truth).getD false
    ignoresEmpty := ((wish? arguments "_env_ignore_empty").map Value.truth).getD false
    nothing := match wish? arguments "_env_parse_none_str" with
      | some (.text content) => some content
      | _ => none }

/-! ## Reading by a convention -/

def reads (convention : Convention) (field : String) (entry : String × String) : Bool :=
  let name := convention.lead ++ field
  (if convention.caseSensitive then entry.1 == name else sameName entry.1 name) &&
    !(convention.ignoresEmpty && entry.2.isEmpty)

def value (convention : Convention) (text : String) : Value :=
  if convention.nothing == some text then .null else .text text

/-- The value that the environment gives for a field: of several variables the last counts. -/
def given? (convention : Convention) (environment : Environment) (field : String) : Option Value :=
  (environment.reverse.find? (convention.reads field)).map fun entry => convention.value entry.2

end Convention

end Settings

end Inclusion
