import Inclusion.Failure

/-! Events, and the outcome of a call together with the events that it gives rise to. Which events
are shown is the business of the listener, and no outcome depends on it. -/

set_option autoImplicit false

namespace Inclusion

inductive Level where
  | debug
  | info
  | warning
  | error
  | critical
  deriving DecidableEq, Repr

namespace Level

def name : Level → String
  | .debug => "debug"
  | .info => "info"
  | .warning => "warning"
  | .error => "error"
  | .critical => "critical"

def all : List Level := [.debug, .info, .warning, .error, .critical]

def ofName? (name : String) : Option Level := all.find? (·.name == name)

def severity : Level → Int
  | .debug => 10
  | .info => 20
  | .warning => 30
  | .error => 40
  | .critical => 50

end Level

/-- How an event comes about: with fields of its own, or as a plain text that is told as it is. -/
inductive Manner where
  | structured
  | plain
  deriving DecidableEq, Repr

structure Event where
  level : Level
  /-- What has happened: as a rule a name. It may be left open. -/
  subject : Json
  fields : List (String × Json)
  manner : Manner

namespace Event

def rejected (error : MultiProofError) (leaves proof flags : Nat) : Event where
  level := .debug
  subject := .text "multiproof_rejected"
  fields := [("reason", .text error.report.errorClass.name), ("leaves", .integer leaves),
    ("proof_nodes", .integer proof), ("flags", .integer flags)]
  manner := .structured

def malformed (error : MultiProofError) (leaves : Nat) : Event where
  level := .info
  subject := .text "allowlist_malformed_proof"
  fields := [("leaves", .integer leaves), ("reason", .text error.report.errorClass.name)]
  manner := .structured

end Event

/-- What a call gives, and the events that tell of it. -/
structure Outcome (α : Type) where
  events : List Event
  result : Except Failure α

namespace Outcome

def quiet {α : Type} (result : Except Failure α) : Outcome α := ⟨[], result⟩

end Outcome

end Inclusion
