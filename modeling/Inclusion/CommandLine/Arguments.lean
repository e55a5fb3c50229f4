import Inclusion.Text.Quoted
import Inclusion.Text.Similarity

/-! Arguments of the command line: options that take a value, one that asks for help, and what is
left. A value may stand after an equals sign or in the next argument. -/

set_option autoImplicit false

namespace Inclusion.CommandLine

inductive UsageError where
  /-- An unknown name, with the names that may have been meant, in ascending order. -/
  | unknownOption (name : String) (meant : List String)
  | valueMissing (option : String)
  | valueRefused (option : String)
  | notAmong (option value : String) (choices : List String)
  | commandMissing
  | unknownCommand (name : String) (meant : List String)
  | fileMissing
  | noSuchFile (path : String)
  | directory (path : String)
  | superfluous (arguments : List String)
  deriving DecidableEq, Repr

def fileArgument : String := "PROOF_FILE"

def suggestion : List String → String
  | [] => ""
  | [name] => s!" Did you mean {Text.quote name}?"
  | names => " (Did you mean one of: " ++ String.intercalate ", " (names.map Text.quote) ++ "?)"

def UsageError.message : UsageError → String
  | .unknownOption name meant => s!"No such option {Text.quote name}." ++ suggestion meant
  | .valueMissing option => s!"Option {Text.quote option} requires an argument."
  | .valueRefused option => s!"Option {Text.quote option} does not take a value."
  | .notAmong option value choices =>
    let listing := String.intercalate ", " (choices.map Text.quote)
    s!"Invalid value for {Text.quote option}: {Text.quote value} is not one of {listing}."
  | .commandMissing => "Missing command."
  | .unknownCommand name meant => s!"No such command {Text.quote name}." ++ suggestion meant
  | .fileMissing => s!"Missing argument {Text.quote fileArgument}."
  | .noSuchFile path =>
    s!"Invalid value for {Text.quote fileArgument}: File {Text.quote path} does not exist."
  | .directory path =>
    s!"Invalid value for {Text.quote fileArgument}: File {Text.quote path} is a directory."
  | .superfluous [argument] => s!"Got unexpected extra argument ({argument})"
  | .superfluous arguments =>
    "Got unexpected extra arguments (" ++ String.intercalate " " arguments ++ ")"

structure Scan where
  /-- Options with their values, in the order given. -/
  options : List (String × String)
  help : Bool
  rest : List String
  deriving DecidableEq, Repr

def helpOption : String := "--help"

def looksLikeOption (argument : String) : Bool :=
  match argument.toList with
  | '-' :: _ :: _ => true
  | _ => false

def splitOption (argument : String) : String × Option String :=
  let characters := argument.toList
  match characters.dropWhile (· != '=') with
  | [] => (argument, none)
  | _ :: value => (String.ofList (characters.takeWhile (· != '=')), some (String.ofList value))

def knownOptions (valued : List String) : List String :=
  (helpOption :: valued).mergeSort fun first second => !(second < first)

/-- How an unknown option is reported. With one hyphen only a letter is meant, and no known option
is like it. -/
def refuseOption (known : List String) (argument : String) : UsageError :=
  match argument.toList with
  | '-' :: '-' :: _ =>
    let name := (splitOption argument).1
    .unknownOption name (Text.nearMisses known name)
  | characters => .unknownOption (String.ofList (characters.take 2)) []

/-- Sort arguments into options and the rest. Two hyphens end the options; where positions are not
interspersed, so does the first argument that is no option. -/
def scan (valued : List String) (interspersed : Bool) : List String → Except UsageError Scan
  | [] => .ok ⟨[], false, []⟩
  | argument :: arguments =>
    if argument == "--" then .ok ⟨[], false, arguments⟩
    else if looksLikeOption argument then
      let (name, attached) := splitOption argument
      let addOption (value : String) (scan : Scan) : Scan :=
        { scan with options := (name, value) :: scan.options }
      if valued.contains name then
        match attached with
        | some value => (scan valued interspersed arguments).map (addOption value)
        | none =>
          match arguments with
          | value :: following => (scan valued interspersed following).map (addOption value)
          | [] => .error (.valueMissing name)
      else if name == helpOption then
        if attached.isSome then .error (.valueRefused name)
        else (scan valued interspersed arguments).map ({ · with help := true })
      else .error (refuseOption (knownOptions valued) argument)
    else if interspersed then
      (scan valued interspersed arguments).map fun scan =>
        { scan with rest := argument :: scan.rest }
    else .ok ⟨[], false, argument :: arguments⟩

namespace Scan

/-- Each option once, in the order of first mention; of its values the last counts. -/
def settled (scan : Scan) : List (String × String) :=
  (scan.options.map Prod.fst).eraseDups.filterMap fun option =>
    (scan.options.reverse.lookup option).map fun value => (option, value)

end Scan

end Inclusion.CommandLine
