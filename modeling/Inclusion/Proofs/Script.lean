import Inclusion.Gate
import Inclusion.Proof.MultiProof

/-! Scripts: what callers do in one session, action after action. Some actions change the environment,
some read the settings of the session, and all others go by nothing but what they are given. -/

set_option autoImplicit false

namespace Inclusion

def Outcome.map {α β : Type} (transform : α → β) (outcome : Outcome α) : Outcome β :=
  ⟨outcome.events, outcome.result.map transform⟩

/-- What a gate judges: a leaf with its siblings, or a batch with its multiproof. -/
inductive Check where
  | single (leaf : Value) (proof : List Value)
  | batch (leaves proof flags : List Value)

namespace Gate

def ask (gate : Gate) : Check → Session → Outcome Bool × Session
  | .single leaf proof, session => (.quiet (gate.isAllowed leaf proof), session)
  | .batch leaves proof flags, session => gate.areAllowed leaves proof flags session

def demand (gate : Gate) : Check → Session → Outcome Unit × Session
  | .single leaf proof, session => (.quiet (gate.requireAllowed leaf proof), session)
  | .batch leaves proof flags, session => gate.requireAllAllowed leaves proof flags session

end Gate

inductive Action where
  | assign (name text : String)
  | remove (name : String)
  | forget
  | readSettings
  | configure (arguments : List (String × Value))
  | process (verifier : Verifier) (proof : List Value) (leaf : Value)
  | verify (verifier : Verifier) (proof : List Value) (root leaf : Value)
  | processBatch (verifier : Verifier) (proof flags leaves : List Value)
  | verifyBatch (verifier : Verifier) (proof flags : List Value) (root : Value) (leaves : List Value)
  | bundle (proof flags : List Value)
  | compare (multiProof : MultiProof) (proof flags : List Value)
  | processBundle (multiProof : MultiProof) (builder : HashBuilder) (leaves : List Value)
  | verifyBundle (multiProof : MultiProof) (builder : HashBuilder) (root : Value)
      (leaves : List Value)
  | openGate (root : Value) (verifier : Verifier)
  | ask (gate : Gate) (check : Check)
  | demand (gate : Gate) (check : Check)

inductive Answer where
  | done
  | settings (settings : Settings)
  | digest (digest : Digest)
  | verdict (holds : Bool)
  | bundle (multiProof : MultiProof)

namespace Action

def configured (arguments : List (String × Value)) (environment : Environment) :
    Except Failure Settings := do
  let sources ← Settings.Sources.ofArguments arguments environment
  (Settings.build sources).mapError .invalid

def perform : Action → Session → Outcome Answer × Session
  | .assign name text, session => (.quiet (.ok .done), session.assign name text)
  | .remove name, session => (.quiet (.ok .done), session.remove name)
  | .forget, session => (.quiet (.ok .done), session.forget)
  | .readSettings, session =>
    let (settings, session) := session.settings
    (.quiet (settings.map .settings), session)
  | .configure arguments, session =>
    (.quiet ((configured arguments session.environment).map .settings), session)
  | .process verifier proof leaf, session =>
    (.quiet ((verifier.processProof proof leaf).map .digest), session)
  | .verify verifier proof root leaf, session =>
    (.quiet ((verifier.verify proof root leaf).map .verdict), session)
  | .processBatch verifier proof flags leaves, session =>
    let (result, session) := verifier.processMultiProof proof flags leaves session
    (.quiet (result.map .digest), session)
  | .verifyBatch verifier proof flags root leaves, session =>
    let (outcome, session) := verifier.verifyMultiProof proof flags root leaves session
    (outcome.map .verdict, session)
  | .bundle proof flags, session =>
    (.quiet ((MultiProof.ofValues proof flags).map .bundle), session)
  | .compare multiProof proof flags, session =>
    let other := MultiProof.ofValues proof flags
    (.quiet (other.map fun other => .verdict (multiProof == other)), session)
  | .processBundle multiProof builder leaves, session =>
    let (result, session) := multiProof.process builder leaves session
    (.quiet (result.map .digest), session)
  | .verifyBundle multiProof builder root leaves, session =>
    let (outcome, session) := multiProof.verify builder root leaves session
    (outcome.map .verdict, session)
  | .openGate root verifier, session =>
    (.quiet ((Gate.ofValue root verifier).map fun gate => .digest gate.root), session)
  | .ask gate check, session =>
    let (outcome, session) := gate.ask check session
    (outcome.map .verdict, session)
  | .demand gate check, session =>
    let (outcome, session) := gate.demand check session
    (outcome.map fun _ => .done, session)

/-- Actions that read the settings of the session: to tell them, or to judge a batch by them. -/
def reads : Action → Bool
  | .readSettings | .processBundle .. | .verifyBundle .. => true
  | .processBatch verifier .. | .verifyBatch verifier .. => verifier.settings.isNone
  | .ask gate (.batch ..) | .demand gate (.batch ..) => gate.verifier.settings.isNone
  | _ => false

def affect (environment : Environment) : Action → Environment
  | .assign name text => environment.assign name text
  | .remove name => environment.remove name
  | _ => environment

end Action

def Environment.after (environment : Environment) (history : List Action) : Environment :=
  history.foldl Action.affect environment

namespace Script

def run : List Action → Session → List (Outcome Answer) × Session
  | [], session => ([], session)
  | action :: actions, session =>
    let (outcome, session) := action.perform session
    let (outcomes, session) := run actions session
    (outcome :: outcomes, session)

theorem run_cons (action : Action) (actions : List Action) (session : Session) :
    run (action :: actions) session =
      ((action.perform session).1 :: (run actions (action.perform session).2).1,
        (run actions (action.perform session).2).2) := rfl

theorem run_append (first second : List Action) (session : Session) :
    run (first ++ second) session =
      ((run first session).1 ++ (run second (run first session).2).1,
        (run second (run first session).2).2) := by
  induction first generalizing session with
  | nil => rfl
  | cons action first ih => simp only [List.cons_append, run_cons, ih]

theorem run_concat (history : List Action) (action : Action) (session : Session) :
    (run (history ++ [action]) session).2 = (action.perform (run history session).2).2 := by
  rw [run_append]
  rfl

end Script

end Inclusion
