import ProverLink.Config.Basic
import ProverLink.Config.Timeout
import ProverLink.Log.Notice

/-!
# Loading the configuration

The configuration comes from the table `ide` of a TOML file and from the environment, which goes
first. A file that is missing counts as empty, and so does one that cannot be read or is not TOML,
with a notice. A file that is not UTF-8 is a fault, and so is one with an integer that is too long
or with values that are nested too deeply.
-/

namespace ProverLink

/-- What loading gives, with the notices on the way. -/
structure Loaded (α : Type) where
  notices : List Notice := []
  result : Except Fault α

/-- The variables of the environment. -/
abbrev Environment := List (String × String)

namespace Environment

/-- The value of a variable. -/
def get? (env : Environment) (name : String) : Option String :=
  (env.find? fun v => v.1 = name).map (·.2)

end Environment

namespace Config

/-- The name of the configuration file. -/
def fileName : String := "fstar_bridge.toml"

/-- The variable that names the executable. -/
def executableVariable : String := "FSTAR_BRIDGE_EXECUTABLE"

/-- The variable that gives the timeout. -/
def timeoutVariable : String := "FSTAR_BRIDGE_TERMINATE_TIMEOUT"

/-- Turns each line end of a text file into a line break. -/
def unifyNewlines : List Char → List Char
  | [] => []
  | '\r' :: '\n' :: rest => '\n' :: unifyNewlines rest
  | '\r' :: rest => '\n' :: unifyNewlines rest
  | c :: rest => c :: unifyNewlines rest

variable [Limits]

/-- The table that the bytes of a file hold. -/
def parseTable (path : Path) (bytes : List UInt8) : Loaded Table :=
  match Utf8.decodeStrict bytes with
  | .error r => { result := .error (.undecodable r) }
  | .ok cs =>
    match Toml.read (unifyNewlines cs) with
    | .ok t => { result := .ok t }
    | .error (.malformed problem place) =>
      { notices := [.configInvalid path problem place], result := .ok [] }
    | .error (.tooManyDigits count) => { result := .error (.tooManyDigits (some count)) }
    | .error .tooDeep => { result := .error (.tooDeep .setting) }

/-- The table of a file. -/
def loadFile (files : FileTree) (path : Path) : Loaded Table :=
  if path.parts.any fun n => n.contains '\x00' then { result := .error .nullInPath }
  else
    match files.read path with
    | .ok bytes => parseTable path bytes
    | .error e =>
      if e.number = some 2 then { result := .ok [] }
      else { notices := [.configUnreadable path e], result := .ok [] }

/-- Where the configuration file is: at a given path, else in the root directory, else in the
working directory. -/
def location (workingDirectory : Path) (root path : Option Path) : Path :=
  path.getD ((root.getD workingDirectory).join { parts := [fileName] })

/-- The table of the configuration file. -/
def loadTable (files : FileTree) (root path : Option Path) : Loaded Table :=
  loadFile files (location files.workingPath root path)

/-- The table `ide` of a table, if it is one. -/
def ideSection (t : Table) : Table :=
  match t.get? "ide" with
  | some (.table s) => s
  | _ => []

/-- The table `ide` of the configuration file. -/
def loadSection (files : FileTree) (root path : Option Path) : Loaded Table :=
  let loaded := loadTable files root path
  { loaded with result := loaded.result.map ideSection }

/-- The executable: from the environment, else from the file, else the default. -/
def executableOf (s : Table) (env : Environment) : String :=
  let fromFile := match s.get? "executable" with
    | some (.str name) => Blank.strip name
    | _ => ""
  let fromEnv := Blank.strip ((env.get? executableVariable).getD "")
  if !fromEnv.isEmpty then fromEnv
  else if !fromFile.isEmpty then fromFile
  else { : Config }.executable

/-- The fault at a value that has no text. -/
def unshownFault : Toml.Unshown → Fault
  | .tooManyDigits => .tooManyDigits none
  | .tooDeep => .tooDeep .shown

/-- The arguments: the words of a text, or the texts of a list. -/
def argsOf (s : Table) : Except Fault (List String) :=
  match s.get? "args" with
  | some (.str words) => .ok (Blank.wordsOf words)
  | some (.arr items) => (items.mapM Toml.text).mapError unshownFault
  | _ => .ok []

/-- The value given for the timeout must have a text, unless what stands in the way is an integer
with too many digits: then it counts for nothing. -/
def checkTimeout (s : Table) : Except Fault Unit :=
  match (s.get? "terminate_timeout").map Toml.text with
  | some (.error .tooDeep) => .error (.tooDeep .shown)
  | _ => .ok ()

/-- The timeout: from the environment, else from the file, else the default. -/
def timeoutOf (s : Table) (env : Environment) : Binary64 :=
  let fromFile := (s.get? "terminate_timeout").bind fun v => (Setting.ofToml v).timeout?
  let fromEnv := (env.get? timeoutVariable).bind fun t => (Setting.text (Text.ofString t)).timeout?
  fromEnv.getD (fromFile.getD { : Config }.terminateTimeout)

/-- The configuration that a table and an environment give. -/
def ofSection (s : Table) (env : Environment) : Except Fault Config := do
  let args ← argsOf s
  checkTimeout s
  .ok { executable := executableOf s env, args, terminateTimeout := timeoutOf s env }

/-- Loads the configuration. -/
def load (files : FileTree) (env : Environment) (root path : Option Path) : Loaded Config :=
  let loaded := loadSection files root path
  { loaded with result := loaded.result.bind fun s => ofSection s env }

end Config

end ProverLink
