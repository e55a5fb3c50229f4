import Inclusion.Settings.Basic

/-! Settings over the time of a session. They are built from the environment when they are first
needed and then kept until they are forgotten; settings that cannot be built are not kept. -/

set_option autoImplicit false

namespace Inclusion

structure Session where
  environment : Environment
  kept : Option Settings

namespace Session

def start (environment : Environment) : Session := ⟨environment, none⟩

def settings (session : Session) : Except Failure Settings × Session :=
  match session.kept with
  | some settings => (.ok settings, session)
  | none =>
    match Settings.build (.ofEnvironment session.environment) with
    | .ok settings => (.ok settings, { session with kept := some settings })
    | .error complaints => (.error (.invalid complaints), session)

theorem settings_of_kept {session : Session} {settings : Settings}
    (kept : session.kept = some settings) : session.settings = (.ok settings, session) := by
  simp [Session.settings, kept]

theorem settings_of_built {session : Session} {settings : Settings} (none : session.kept = none)
    (built : Settings.build (.ofEnvironment session.environment) = .ok settings) :
    session.settings = (.ok settings, { session with kept := some settings }) := by
  simp [Session.settings, none, built]

theorem settings_of_refused {session : Session} {complaints : List Complaint}
    (none : session.kept = none)
    (refused : Settings.build (.ofEnvironment session.environment) = .error complaints) :
    session.settings = (.error (.invalid complaints), session) := by
  simp [Session.settings, none, refused]

def forget (session : Session) : Session := { session with kept := none }

def assign (session : Session) (name text : String) : Session :=
  { session with environment := session.environment.assign name text }

def remove (session : Session) (name : String) : Session :=
  { session with environment := session.environment.remove name }

end Session

end Inclusion
