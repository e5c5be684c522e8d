import ProverLink.File.Tree
import ProverLink.Fault

/-!
# Options of the command line

The command line is a command with options. An option takes its value from behind an equals sign or
from the next argument, whatever that is, and of two values of one option the later counts. Two
hyphens end the options.
-/

namespace ProverLink.CommandLine

/-- Why a command line is refused. -/
inductive Misuse where
  | missingCommand
  | unknownCommand (name : String)
  | unknownOption (argument : String)
  | valueMissing (option : String)
  | valueRefused (option : String)
  | notInteger (value : String)
  | noPath (text : String)
  | noFile (path : String)
  | isDirectory (path : String)
  | unreadable (path : String)
  | extraArgument (argument : String)
  | unknownLevel (name : String)
deriving DecidableEq

/-- The wording of a refusal. -/
def Misuse.message : Misuse → String
  | .missingCommand => "missing command"
  | .unknownCommand name => "unknown command: " ++ name
  | .unknownOption argument => "unknown option: " ++ argument
  | .valueMissing option => "option needs a value: " ++ option
  | .valueRefused option => "option takes no value: " ++ option
  | .notInteger value => "not an integer: " ++ value
  | .noPath text => "not a path: " ++ text
  | .noFile path => "no such file: " ++ path
  | .isDirectory path => "not a file: " ++ path
  | .unreadable path => "file cannot be read: " ++ path
  | .extraArgument argument => "unexpected argument: " ++ argument
  | .unknownLevel name => "unknown log level: " ++ name

/-- The options of all commands. -/
inductive OptionName where
  | help
  | tcp
  | host
  | port
  | config
  | logLevel
  | logFile
deriving DecidableEq

namespace OptionName

/-- How an option is written. -/
def text : OptionName → String
  | .help => "--help"
  | .tcp => "--tcp"
  | .host => "--host"
  | .port => "--port"
  | .config => "--config"
  | .logLevel => "--log-level"
  | .logFile => "--log-file"

/-- Whether an option takes no value. -/
def isFlag (o : OptionName) : Bool := o = .help || o = .tcp

end OptionName

/-! ### Reading -/

/-- The options in the order in which they were given, a flag with an empty value, and the other
arguments. -/
structure Given where
  options : List (OptionName × String) := []
  arguments : List String := []

namespace Given

/-- One more option in front. -/
def option (o : OptionName) (value : String) (g : Given) : Given :=
  { g with options := (o, value) :: g.options }

/-- One more argument in front. -/
def argument (a : String) (g : Given) : Given := { g with arguments := a :: g.arguments }

/-- Whether an option was given. -/
def has (g : Given) (o : OptionName) : Bool := g.options.any fun e => e.1 = o

/-- The value of an option that counts. -/
def last (g : Given) (o : OptionName) : String :=
  (((g.options.filter fun e => e.1 = o).getLast?).map (·.2)).getD ""

end Given

/-- Whether an argument is read as an option. -/
def isOption (argument : String) : Bool :=
  match argument.toList with
  | '-' :: _ :: _ => true
  | _ => false

/-- The name of an option and the value behind the equals sign, if there is one. -/
def splitValue (argument : String) : String × Option String :=
  let cs := argument.toList
  let name := String.ofList (cs.takeWhile (· ≠ '='))
  match cs.dropWhile (· ≠ '=') with
  | _ :: value => (name, some (String.ofList value))
  | [] => (name, none)

/-- How an option gets its value. -/
inductive Need where
  /-- There is all it needs. -/
  | nothing (o : OptionName) (value : String)
  /-- The next argument is its value. -/
  | next (o : OptionName)

/-- Looks at an argument that is an option. -/
def need (known : List OptionName) (argument : String) : Except Misuse Need :=
  let (name, value?) := splitValue argument
  match known.find? fun o => o.text = name with
  | none => .error (.unknownOption argument)
  | some o =>
    match o.isFlag, value? with
    | true, none => .ok (.nothing o "")
    | true, some _ => .error (.valueRefused name)
    | false, some value => .ok (.nothing o value)
    | false, none => .ok (.next o)

/-- Reads arguments. Unless options may follow other arguments, the first one that is no option ends
the reading. -/
def scan (known : List OptionName) (mixed : Bool) : List String → Except Misuse Given
  | [] => .ok {}
  | [a] =>
    if a = "--" then .ok {}
    else if isOption a then
      match need known a with
      | .ok (.nothing o value) => .ok { options := [(o, value)] }
      | .ok (.next o) => .error (.valueMissing o.text)
      | .error m => .error m
    else .ok { arguments := [a] }
  | a :: b :: rest =>
    if a = "--" then .ok { arguments := b :: rest }
    else if isOption a then
      match need known a with
      | .ok (.nothing o value) => (scan known mixed (b :: rest)).map (Given.option o value)
      | .ok (.next o) => (scan known mixed rest).map (Given.option o b)
      | .error m => .error m
    else if mixed then (scan known mixed (b :: rest)).map (Given.argument a)
    else .ok { arguments := a :: b :: rest }

/-! ### Commands -/

/-- A command with what was given to it. -/
inductive Command where
  | help
  | version (given : Given)
  | lsp (given : Given)

/-- The command with a name. -/
def Command.named (name : String) (rest : List String) : Option (Except Misuse Command) :=
  if name = "version" then some ((scan [.help] true rest).map .version)
  else if name = "lsp" then
    some ((scan [.help, .tcp, .host, .port, .config, .logLevel, .logFile] true rest).map .lsp)
  else none

/-- Reads a command line. A name that is no command is looked at once more as an option. -/
def Command.parse (arguments : List String) : Except Misuse Command := do
  let g ← scan [.help] false arguments
  if g.has .help then .ok .help
  else
    match g.arguments with
    | [] => .error .missingCommand
    | name :: rest =>
      match Command.named name rest with
      | some c => c
      | none =>
        let again ← scan [.help] false (name :: rest)
        if again.has .help then .ok .help else .error (.unknownCommand name)

end ProverLink.CommandLine
