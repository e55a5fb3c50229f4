import Inclusion.CommandLine.Arguments
import Inclusion.Listener
import Inclusion.Request
import Inclusion.Text.ControlSequence

/-! The command line: check the proof in a file and tell the verdict by the exit status. A run goes
as far as its file, and is finished once the file's state is known. It is assumed that standard output
can encode every report, and that no variable asks for the completions of a shell instead of a run. -/

set_option autoImplicit false

namespace Inclusion.CommandLine

inductive Ending where
  | exit (status : Nat)
  /-- A failure that nothing handles. -/
  | escaped (failure : Failure)
  deriving DecidableEq

def valid : Nat := 0
def mismatch : Nat := 1
def malformed : Nat := 2

structure Transcript where
  ending : Ending
  output : String
  errors : String
  records : List Fields

namespace Transcript

/-- A run that ends in an error. Readers of errors may have no terminal. -/
def refusal (text : String) (records : List Fields) : Transcript :=
  ⟨.exit malformed, "", Text.withoutSequences s!"Error: {text}\n", records⟩

def usage (error : UsageError) : Transcript := refusal error.message []

def escaped (failure : Failure) : Transcript := ⟨.escaped failure, "", "", []⟩

def helpText : String :=
  "Usage: [--hasher NAME] [--log-level LEVEL] (verify | verify-multi) PROOF_FILE\n\n" ++
  "Verify Merkle proofs against a trusted root\n"

def help : Transcript := ⟨.exit valid, helpText, "", []⟩

def bare : Transcript := ⟨.exit malformed, "", helpText, []⟩

def verdict (holds : Bool) (records : List Fields) : Transcript :=
  if holds then ⟨.exit valid, "✓ Proof is valid\n", "", records⟩
  else ⟨.exit mismatch, "✗ Proof does not match root\n", "", records⟩

end Transcript

/-! ## Options -/

def hashOption : String := "--hasher"
def levelOption : String := "--log-level"
def levelNames : List String := ["debug", "info", "warning", "error"]

structure Options where
  hash : Option HashName
  /-- A level name in lower case. -/
  level : Option String
  deriving DecidableEq, Repr

def judge (options : Options) (option value : String) : Except UsageError Options :=
  if option == hashOption then
    match HashName.ofText? value with
    | some name => .ok { options with hash := some name }
    | none => .error (.notAmong option value (HashName.all.map HashName.text))
  else
    let level := Text.lowerCase value
    if levelNames.contains level then .ok { options with level := some level }
    else .error (.notAmong option value levelNames)

def Options.ofScan (scan : Scan) : Except UsageError Options :=
  scan.settled.foldlM (fun options (option, value) => judge options option value) ⟨none, none⟩

def scanGroup (arguments : List String) : Except UsageError Scan :=
  scan [hashOption, levelOption] false arguments

/-! ## Commands -/

inductive Command where
  | verify
  | verifyMulti
  deriving DecidableEq, Repr

namespace Command

def name : Command → String
  | .verify => "verify"
  | .verifyMulti => "verify-multi"

def all : List Command := [.verify, .verifyMulti]

def ofName? (text : String) : Option Command := all.find? (·.name == text)

end Command

/-- A name of no command. Where it looks like an option it is first taken for one. -/
def refuseCommand (name : String) (arguments : List String) : Transcript :=
  match scanGroup (name :: arguments) with
  | .error error => .usage error
  | .ok scan =>
    if scan.help then .help
    else
      match Options.ofScan scan with
      | .error error => .usage error
      | .ok _ => .usage (.unknownCommand name (Text.nearMisses (Command.all.map Command.name) name))

structure Task where
  command : Command
  path : String
  superfluous : List String
  hash : HashName
  listener : Listener
  session : Session

/-- The settings and the listener in force. An option goes before the settings, but the settings
are read in any case. -/
def configure (options : Options) (environment : Environment) :
    Except Failure (HashName × Listener × Session) := do
  let (settings, session) := (Session.start environment).settings
  let settings ← settings
  let listener ← Listener.ofName ((options.level.map Text.upperCase).getD settings.logLevel)
  return (options.hash.getD settings.defaultHash, listener, session)

def startCommand (command : Command) (options : Options) (environment : Environment)
    (arguments : List String) : Except Transcript Task := do
  let (hash, listener, session) ← (configure options environment).mapError .escaped
  let scan ← (scan [] true arguments).mapError .usage
  if scan.help then throw .help
  match scan.rest with
  | [] => throw (.usage .fileMissing)
  | path :: superfluous =>
    if path.toList.contains '\x00' then throw (.escaped .nulInPath)
    else return ⟨command, path, superfluous, hash, listener, session⟩

/-- Go as far as the file: the group's options first, then the command's name, then the settings,
then the command's own arguments. -/
def start (arguments : List String) (environment : Environment) : Except Transcript Task := do
  if arguments.isEmpty then throw .bare
  let scan ← (scanGroup arguments).mapError .usage
  if scan.help then throw .help
  let options ← (Options.ofScan scan).mapError .usage
  match scan.rest with
  | [] => throw (.usage .commandMissing)
  | name :: arguments =>
    match Command.ofName? name with
    | some command => startCommand command options environment arguments
    | none => throw (refuseCommand name arguments)

/-! ## Verification -/

inductive FileState where
  | absent
  | directory
  | content (octets : Octets)
  deriving DecidableEq

namespace Task

def verifier (task : Task) : Verifier := ⟨task.hash.builder, none⟩

def reject (task : Task) (complaints : List Complaint) : Transcript :=
  let failure := Failure.invalid complaints
  match Event.ofReport ⟨.validation, [.text failure.message]⟩ [("file", .text task.path)] with
  | .ok event =>
    .refusal s!"malformed proof file {task.path}\n{failure.message}" (task.listener.records [event])
  | .error failure => .escaped failure

def checkSingle (task : Task) (request : SingleRequest) : Transcript :=
  match task.verifier.verify (request.proof.map .digest) (.digest request.root)
      (.digest request.leaf) with
  | .ok holds => .verdict holds []
  | .error failure => .escaped failure

/-- A multiproof of the wrong shape has the same status as a malformed document. -/
def checkMulti (task : Task) (request : MultiRequest) : Transcript :=
  let (outcome, _) := task.verifier.verifyMultiProof request.multiProof.proofValues
    request.multiProof.flagValues (.digest request.root) (request.leaves.map .digest) task.session
  match outcome.result with
  | .ok holds => .verdict holds (task.listener.records outcome.events)
  | .error (.multiProof error) =>
    let warning : Event := ⟨.warning, .text "malformed_multiproof",
      [("file", .text task.path), ("reason", .text error.report.errorClass.name),
        ("detail", .text error.message)], .structured⟩
    .refusal s!"malformed multiproof: {error.message}"
      (task.listener.records (outcome.events ++ [warning]))
  | .error failure =>
    ⟨.escaped failure, "", "", task.listener.records outcome.events⟩

def check (task : Task) (octets : Octets) : Transcript :=
  match task.command with
  | .verify =>
    match SingleRequest.ofOctets octets with
    | .ok request => task.checkSingle request
    | .error complaints => task.reject complaints
  | .verifyMulti =>
    match MultiRequest.ofOctets octets with
    | .ok request => task.checkMulti request
    | .error complaints => task.reject complaints

/-- Finish a run. The file is looked for before superfluous arguments are refused. -/
def finish (task : Task) : FileState → Transcript
  | .absent => .usage (.noSuchFile task.path)
  | .directory => .usage (.directory task.path)
  | .content octets =>
    if task.superfluous.isEmpty then task.check octets
    else .usage (.superfluous task.superfluous)

end Task

def run (arguments : List String) (environment : Environment) (files : String → FileState) :
    Transcript :=
  match start arguments environment with
  | .ok task => task.finish (files task.path)
  | .error transcript => transcript

end Inclusion.CommandLine
