import Inclusion.Numeral
import Inclusion.Proof.Limits
import Inclusion.Settings.Convention
import Inclusion.Text.UpperCase

/-! Settings and where they come from. Each field is taken from the first source that names it: the
arguments given, then the environment, then a default. Only the value taken is judged, and all
fields are judged before any complaint is raised. -/

set_option autoImplicit false

namespace Inclusion

structure Settings where
  limits : Limits
  defaultHash : HashName
  /-- The name of a log level, in upper case but otherwise unchecked. -/
  logLevel : String
  deriving DecidableEq, Repr

namespace Settings

structure Sources where
  arguments : List (String × Value)
  environment : Environment
  convention : Convention

namespace Sources

def ofEnvironment (environment : Environment) : Sources := ⟨[], environment, .standard⟩

/-- The environment as the arguments ask to have it read, behind the arguments themselves. -/
def ofArguments (arguments : List (String × Value)) (environment : Environment) :
    Except Failure Sources := do
  return ⟨arguments, environment, ← Convention.ofArguments arguments⟩

theorem ofArguments_nil (environment : Environment) :
    ofArguments [] environment = .ok (ofEnvironment environment) := rfl

/-- The value given for a field, if any. Of arguments whose names differ in letter case alone the
first counts. -/
def given? (sources : Sources) (field : String) : Option Value :=
  match lookupName? sources.arguments field with
  | some value => some value
  | none => sources.convention.given? sources.environment field

end Sources

/-! ## Single fields -/

def decode (fault : Fault) (octets : Octets) : Except Fault String :=
  match octets.toText? with
  | some text => .ok text
  | none => .error fault

/-- Octets may stand for the text that they encode, but not those behind a window. -/
def readText : Value → Except Fault String
  | .text content => .ok content
  | .buffer .fixed content | .buffer .growable content => decode .notUtf8 content
  | .digest content => decode .notUtf8 content.octets
  | _ => .error .notString

def readNumeral (content : String) : Except Fault Int :=
  match Numeral.read content with
  | .integer whole => .ok whole
  | .malformed => .error .unknownInteger
  | .tooLong => .error .tooManyDigits

/-- Of octets only those that never change may spell an integer. -/
def readInteger : Value → Except Fault Int
  | .integer content => .ok content
  | .boolean content => .ok (if content then 1 else 0)
  | .float content =>
    match content.toInt? with
    | some whole => if Binary64.isWord whole then .ok whole else .error .tooManyDigits
    | none => .error (if content.isFinite then .fractional else .infinite)
  | .text content => readNumeral content
  | .buffer .fixed content => do readNumeral (← decode .unknownInteger content)
  | .digest content => do readNumeral (← decode .unknownInteger content.octets)
  | _ => .error .notInteger

def readLimit (value : Value) : Except Fault Nat := do
  let whole ← readInteger value
  if 0 < whole then return whole.toNat else throw .notPositive

def readHash (value : Value) : Except Fault HashName := do
  match HashName.ofAnyCase? (← readText value) with
  | some name => return name
  | none => throw .unknownHash

def readLevel (value : Value) : Except Fault String := do
  return Text.upperCase (← readText value)

/-! ## All fields -/

def field {α : Type} (sources : Sources) (name : String) (read : Value → Except Fault α)
    (standard : α) : Except Complaint α :=
  match sources.given? name with
  | some value => (read value).mapError (Complaint.about name)
  | none => .ok standard

def complaints {α : Type} : Except Complaint α → List Complaint
  | .error complaint => [complaint]
  | .ok _ => []

def build (sources : Sources) : Except (List Complaint) Settings :=
  let leaves := field sources leavesField readLimit 65536
  let proof := field sources proofField readLimit 65536
  let flags := field sources flagsField readLimit 131072
  let hash := field sources hashField readHash .standard
  let level := field sources levelField readLevel "INFO"
  match leaves, proof, flags, hash, level with
  | .ok leaves, .ok proof, .ok flags, .ok hash, .ok level => .ok ⟨⟨leaves, proof, flags⟩, hash, level⟩
  | _, _, _, _, _ =>
    .error (complaints leaves ++ complaints proof ++ complaints flags ++ complaints hash ++
      complaints level)

def toArguments (settings : Settings) : List (String × Value) :=
  [(leavesField, .integer settings.limits.leaves), (proofField, .integer settings.limits.proof),
    (flagsField, .integer settings.limits.flags), (hashField, .text settings.defaultHash.text),
    (levelField, .text settings.logLevel)]

end Settings

end Inclusion
