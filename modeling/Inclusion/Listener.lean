import Inclusion.Event

/-! Listeners: who hears which events, and how an event is put on record. A record holds the fields
and the subject of an event over those of the context, and under its own level. -/

set_option autoImplicit false

namespace Inclusion

abbrev Fields := List (String × Json)

structure Listener where
  /-- The least severity that is heard. -/
  threshold : Int
  /-- Fields that every record holds unless the event has them itself. -/
  context : Fields

namespace Listener

def namedThresholds : List (String × Int) :=
  [("DEBUG", 10), ("INFO", 20), ("WARNING", 30), ("WARN", 30), ("ERROR", 40), ("CRITICAL", 50),
    ("FATAL", 50), ("NOTSET", 0)]

def ofName (name : String) : Except Failure Listener :=
  match namedThresholds.lookup name with
  | some threshold => .ok ⟨threshold, []⟩
  | none => .error .unknownLevel

def hears (listener : Listener) (event : Event) : Bool :=
  listener.threshold ≤ event.level.severity

def ownNames : List String := ["level", "timestamp", "_record", "_from_structlog"]

/-- Requests to add a trace to a structured event. No trace is at hand, so they only vanish. -/
def traceRequests : List String := ["exc_info", "stack_info"]

def hiddenNames : Manner → List String
  | .structured => ownNames ++ traceRequests
  | .plain => ownNames

def heading (event : Event) : Fields :=
  match event.subject with
  | .null => []
  | subject => [("event", subject)]

def overlay (context fields : Fields) : Fields :=
  context.filter (fun entry => !fields.any fun field => field.1 == entry.1) ++ fields

def record (listener : Listener) (event : Event) : Fields :=
  let hidden := hiddenNames event.manner
  (overlay listener.context (event.fields ++ heading event)).filter
    (fun entry => !hidden.contains entry.1) ++ [("level", .text event.level.name)]

def records (listener : Listener) (events : List Event) : List Fields :=
  (events.filter listener.hears).map listener.record

end Listener

namespace Event

structure Stage where
  operation : String
  parameters : List String
  deriving DecidableEq, Repr

/-- The operations that fields pass in turn: the one named for the level, and the one behind it. -/
def stages (level : Level) : List Stage :=
  [⟨level.name, ["self", "event"]⟩, ⟨"_proxy_to_logger", ["method_name"]⟩]

def Stage.clash? (stage : Stage) (fields : Fields) : Option Failure :=
  (fields.find? fun entry => stage.parameters.contains entry.1).map fun entry =>
    .reservedField stage.operation entry.1

/-- A structured event. No field may have the name of a parameter on the way. -/
def ofFields (level : Level) (subject : Json) (fields : Fields) : Except Failure Event :=
  match (stages level).findSome? fun stage => stage.clash? fields with
  | some failure => .error failure
  | none => .ok ⟨level, subject, fields, .structured⟩

def plain (level : Level) (subject : Json) : Event := ⟨level, .text subject.display, [], .plain⟩

def ofReport (report : Report) (context : Fields) : Except Failure Event :=
  ofFields .error (.text "merkle_error") (Listener.overlay
    [("error_type", .text report.errorClass.name), ("error_message", .text report.message)] context)

end Event

end Inclusion
