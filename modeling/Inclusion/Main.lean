import Inclusion.CommandLine.Run
import Inclusion.Json.Printer

/-! The program: hand the arguments and the environment to a run, read the one file that it asks
for, print what it leaves behind and exit with its status. -/

set_option autoImplicit false

open Inclusion Inclusion.CommandLine

/-- A variable as it stands in the block of all variables. One that is no UTF-8 is passed over. -/
def readVariable (entry : Octets) : Option (String × String) :=
  match entry.span (· != 0x3d) with
  | (name, _ :: text) => do return (← Octets.toText? name, ← Octets.toText? text)
  | _ => none

def readNamed (name : String) : IO (Option (String × String)) := do
  return (← IO.getEnv name).map fun text => (name, text)

/-- All variables, since those of settings are found in any letter case. A system that does not show them
all is asked for those in the standard spelling. -/
def readEnvironment : IO Environment := do
  try
    let block ← IO.FS.readBinFile "/proc/self/environ"
    return (block.data.toList.splitOn 0).filterMap readVariable
  catch _ =>
    let fields := [Settings.leavesField, Settings.proofField, Settings.flagsField,
      Settings.hashField, Settings.levelField]
    return (← fields.mapM fun field => readNamed (Settings.Convention.standard.lead ++ field)).filterMap id

/-- The state of a path. What exists and cannot be read as a file is taken for a directory. -/
def readFileState (path : String) : IO FileState := do
  try
    let content ← IO.FS.readBinFile path
    return .content content.data.toList
  catch
    | .noFileOrDirectory .. => return .absent
    | _ => return .directory

def main (arguments : List String) : IO UInt32 := do
  let environment ← readEnvironment
  let transcript ← match start arguments environment with
    | .ok task => do
      let state ← readFileState task.path
      pure (task.finish state)
    | .error transcript => pure transcript
  let errors ← IO.getStderr
  for record in transcript.records do
    errors.putStrLn (Json.object record).render
  errors.putStr transcript.errors
  (← IO.getStdout).putStr transcript.output
  match transcript.ending with
  | .exit status => return UInt32.ofNat status
  | .escaped failure =>
    errors.putStrLn s!"{failure.errorClass.name}: {failure.message}"
    return 1
