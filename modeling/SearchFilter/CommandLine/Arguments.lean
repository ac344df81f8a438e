import SearchFilter.Text.Quoted
import SearchFilter.Text.Similarity

/-!
# Arguments of the command line

The arguments are options of the program, the name of a command, and the arguments of the command.
Options of the program end where the first argument stands that is none; two hyphens by themselves
end the options of the program or of the command.

* `Invocation` is what the arguments ask for, before the command is looked at.
* `readOptions` reads the options of the program, `readQueries` the arguments of the one command.
* `UsageError` says what is wrong with the arguments or with what they lead to.
-/

set_option autoImplicit false

namespace SearchFilter
namespace CommandLine

/-- Why a run does not start. -/
inductive UsageError where
  /-- There is no such option, but there are these, whose names are alike. -/
  | noSuchOption (name : String) (close : List String)
  | needsArgument (name : String)
  | takesNoValue (name : String)
  | missingCommand
  | noSuchCommand (name : String)
  /-- The settings are asked for under a path that leads to a directory. -/
  | settingsAreDirectory (path : String)
  /-- The settings cannot be loaded. -/
  | badSettings (message : String)
  | noQueries
  /-- Any other fault of the arguments. -/
  | other (message : String)
deriving DecidableEq, Repr

/-- A question whether one of some options was meant. -/
def suggestion : List String → String
  | [] => ""
  | [name] => " Did you mean " ++ name ++ "?"
  | names => " (Possible options: " ++ ", ".intercalate (names.mergeSort (· ≤ ·)) ++ ")"

variable [Surroundings]

/-- The text of an error. -/
def UsageError.message : UsageError → String
  | noSuchOption name close => "No such option: " ++ name ++ suggestion close
  | needsArgument name => "Option " ++ Text.quoted name ++ " requires an argument."
  | takesNoValue name => "Option " ++ Text.quoted name ++ " does not take a value."
  | missingCommand => "Missing command."
  | noSuchCommand name => "No such command " ++ Text.quoted name ++ "."
  | settingsAreDirectory path =>
    "Invalid value for '--config': File " ++ Text.quoted path ++ " is a directory."
  | badSettings message => "Invalid value for --config: " ++ message
  | noQueries => "No queries given and none configured under `queries`"
  | other message => message

/-- How an argument counts. -/
inductive Argument where
  /-- Two hyphens by themselves. -/
  | endOfOptions
  /-- An option with the value behind its equals sign, if there is one. -/
  | option (name : String) (value : Option String)
  | plain
deriving DecidableEq, Repr

/-- The name of an option and the value behind its equals sign. -/
def splitOption (cs : List Char) : String × Option String :=
  let name := cs.takeWhile (· != '=')
  match cs.dropWhile (· != '=') with
  | [] => (String.ofList name, none)
  | _ :: value => (String.ofList name, some (String.ofList value))

/-- How an argument counts.  With one hyphen only the next character names the option; a hyphen by
itself is no option. -/
def Argument.ofString (arg : String) : Argument :=
  match arg.toList with
  | ['-', '-'] => endOfOptions
  | '-' :: '-' :: cs =>
    let (name, value) := splitOption ('-' :: '-' :: cs)
    option name value
  | '-' :: c :: _ => option (String.ofList ['-', c]) none
  | _ => plain

/-- The options of the program. -/
def programOptions : List String := ["--config", "--help"]

/-- The options of the command. -/
def commandOptions : List String := ["--help"]

/-- The error that an option is none of those there are.  An option of one letter is like no other. -/
def unknownOption (options : List String) (name : String) : UsageError :=
  if name.startsWith "--" then
    .noSuchOption name (options.filter fun option => Text.isClose option.toList name.toList)
  else .noSuchOption name []

/-- What the options of the program ask for. -/
structure Invocation where
  /-- Whether help is asked for. -/
  help : Bool := false
  /-- The path of the settings; of several the last counts. -/
  settings : Option String := none
  /-- The name of the command and its arguments. -/
  rest : List String
deriving DecidableEq, Repr

/-- The options of the program, and what follows them. -/
def readOptions : List String → Except UsageError Invocation
  | [] => .ok { rest := [] }
  | arg :: args =>
    match Argument.ofString arg with
    | .plain => .ok { rest := arg :: args }
    | .endOfOptions => .ok { rest := args }
    | .option "--config" (some value) => do
      let invocation ← readOptions args
      return { invocation with settings := invocation.settings.or (some value) }
    | .option "--config" none =>
      match args with
      | [] => .error (.needsArgument "--config")
      | value :: args => do
        let invocation ← readOptions args
        return { invocation with settings := invocation.settings.or (some value) }
    | .option "--help" none => return { (← readOptions args) with help := true }
    | .option "--help" (some _) => .error (.takesNoValue "--help")
    | .option name _ => .error (unknownOption programOptions name)

/-- What the arguments of the command ask for. -/
structure Request where
  help : Bool := false
  queries : List String
deriving DecidableEq, Repr

/-- The queries among the arguments of the command; options may stand between them. -/
def readQueries : List String → Except UsageError Request
  | [] => .ok { queries := [] }
  | arg :: args =>
    match Argument.ofString arg with
    | .plain => do
      let request ← readQueries args
      return { request with queries := arg :: request.queries }
    | .endOfOptions => .ok { queries := args }
    | .option "--help" none => return { (← readQueries args) with help := true }
    | .option "--help" (some _) => .error (.takesNoValue "--help")
    | .option name _ => .error (unknownOption commandOptions name)

end CommandLine
end SearchFilter
