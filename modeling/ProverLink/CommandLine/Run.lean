import ProverLink.CommandLine.Options
import ProverLink.Server

/-!
# Running a command line

What a command line comes to: an exit code and a text, the log with its threshold, and the
connection on which the server is to be started.
-/

namespace ProverLink.CommandLine

/-- The version of the program. -/
def programVersion : String := "0.1.0"

/-- What the help says. -/
def usage : String :=
  "commands: lsp, version\n" ++
    "options of lsp: --tcp, --host TEXT, --port INTEGER, --config FILE, --log-level TEXT, " ++
    "--log-file PATH\n"

/-- How a command ends. -/
inductive Ending where
  | done (output : String)
  | misuse (m : Misuse)
  | fault (f : Fault)

/-- The exit code of an ending. -/
def Ending.code : Ending → Nat
  | .done _ => 0
  | .misuse _ => 2
  | .fault _ => 1

/-- The connection on which the server is to be started. -/
inductive Start where
  | stdio
  | tcp (host : String) (port : Int)
deriving DecidableEq

/-- What a command line comes to. -/
structure Run where
  ending : Ending
  start : Option Start := none
  threshold : Nat := Level.initialThreshold
  /-- The notices at or above the threshold. -/
  log : List Notice := []
  /-- The file that the log goes to, if it is not standard error. -/
  logFile : Option Path := none
  config : Config := {}
  configPath : Option Path := none

/-- The options of the server. -/
structure Options where
  tcp : Bool := false
  host : String := "127.0.0.1"
  port : Int := 2087
  config : Option Path := none
  logLevel : String := "INFO"
  logFile : Option Path := none

namespace Options

/-- A text as a path. No path holds the character that ends texts in the system. -/
def readPath (text : String) : Except Misuse Path :=
  if text.contains '\x00' then .error (.noPath text) else .ok (Path.ofString text)

/-- A text as a path that leads to a file. -/
def readFilePath (files : FileTree) (text : String) : Except Misuse Path := do
  let path ← readPath text
  match files.find path with
  | .found (.file _) => .ok path
  | .found .directory => .error (.isDirectory text)
  | .found (.barred _ _) => .error (.unreadable text)
  | _ => .error (.noFile text)

/-- Takes over an option that was given. -/
def set (files : FileTree) (given : Given) (options : Options) (o : OptionName) :
    Except Misuse Options :=
  let value := given.last o
  match o with
  | .help => .ok options
  | .tcp => .ok { options with tcp := true }
  | .host => .ok { options with host := value }
  | .port =>
    match Decimal.readPlain? (Text.ofString value) with
    | some port => .ok { options with port }
    | none => .error (.notInteger value)
  | .config => (readFilePath files value).map fun p => { options with config := some p }
  | .logLevel => .ok { options with logLevel := value }
  | .logFile => (readPath value).map fun p => { options with logFile := some p }

/-- The options that were given, looked at in their order. -/
def ofGiven (files : FileTree) (given : Given) : Except Misuse Options := do
  let options ← (given.options.map (·.1)).foldlM (set files given) {}
  match given.arguments with
  | [] => .ok options
  | a :: _ => .error (.extraArgument a)

end Options

/-- The file of the log, if one is wanted. -/
def openLog (files : FileTree) : Option Path → Except OsError (Option Path)
  | none => .ok none
  | some p => (files.openToAppend p).map some

/-- The notice of an effect. -/
def noticeOf : Effect → Option Notice
  | .notice n => some n
  | _ => none

variable [Limits]

/-- Prepares the server: it loads its configuration and, if it is to listen, says where. -/
def prepare (options : Options) : Act Server Start := do
  Server.configure options.config
  if options.tcp then
    Act.log (.listening options.host options.port)
    pure (.tcp options.host options.port)
  else pure .stdio

/-- Runs the command that starts the server. -/
def serve (files : FileTree) (environment : Environment) (options : Options) : Run :=
  match Level.threshold? options.logLevel with
  | none => { ending := .misuse (.unknownLevel options.logLevel) }
  | some threshold =>
    match openLog files options.logFile with
    | .error e => { ending := .fault (.file e) }
    | .ok logFile =>
      let outcome := (prepare options).run { files, environment }
      let log := (outcome.trace.filterMap noticeOf).filter fun n => threshold ≤ n.level.weight
      let config := outcome.state.config
      let configPath := outcome.state.configPath
      match outcome.result with
      | .error f => { ending := .fault f, threshold, log, logFile, config, configPath }
      | .ok start =>
        { ending := .done "", start := some start, threshold, log, logFile, config, configPath }

/-- Runs a command. -/
def Command.run (files : FileTree) (environment : Environment) : Command → Run
  | .help => { ending := .done usage }
  | .version given =>
    if given.has .help then { ending := .done usage }
    else
      match given.arguments with
      | [] => { ending := .done (programVersion ++ "\n") }
      | a :: _ => { ending := .misuse (.extraArgument a) }
  | .lsp given =>
    if given.has .help then { ending := .done usage }
    else
      match Options.ofGiven files given with
      | .ok options => serve files environment options
      | .error m => { ending := .misuse m }

/-- Runs a command line. -/
def run (files : FileTree) (environment : Environment) (arguments : List String) : Run :=
  match Command.parse arguments with
  | .ok command => command.run files environment
  | .error m => { ending := .misuse m }

end ProverLink.CommandLine
