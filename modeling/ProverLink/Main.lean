import ProverLink.CommandLine.Run

/-!
# The program

Reads the files and variables that a command line can ask for, runs it, and writes what comes of it.
The connection to the editor is opened by whoever hosts the server.
-/

namespace ProverLink.Program

/-- What stands at a place of the file system. -/
def entryAt (path : String) : IO (Option Entry) := do
  try
    let bytes ← IO.FS.readBinFile path
    return some (.file bytes.toList)
  catch
    | .noFileOrDirectory .. => return none
    | .permissionDenied .. => return some (.barred 13 "Permission denied")
    | _ => return some .directory

/-- The texts of a command line that can be paths. -/
def candidates (arguments : List String) : List String :=
  Config.fileName :: arguments ++ arguments.filterMap fun a => (CommandLine.splitValue a).2

/-- The part of the file system that a command line can ask for. -/
def readTree (arguments : List String) : IO FileTree := do
  let cwd := Path.ofString (← IO.currentDir).toString
  let mut entries : List (List String × Entry) := [(cwd.parts, .directory)]
  for text in candidates arguments do
    let path := (cwd.join (Path.ofString text)).collapse
    match ← entryAt path.toString with
    | some e => entries := entries ++ [(path.parts, e)]
    | none => pure ()
    match ← entryAt path.parent.toString with
    | some e => entries := entries ++ [(path.parent.parts, e)]
    | none => pure ()
  return { workingDirectory := cwd.parts, entries }

/-- The variables that a configuration looks at. -/
def readEnvironment : IO Environment := do
  let mut found : Environment := []
  for name in [Config.executableVariable, Config.timeoutVariable] do
    match ← IO.getEnv name with
    | some value => found := found ++ [(name, value)]
    | none => pure ()
  return found

/-- A text for the terminal; a surrogate cannot be shown. -/
def shown (t : Text) : String := String.ofList (t.map fun p => (p.toChar?).getD Utf8.replacement)

/-- Writes the log to its file, or else to standard error. -/
def writeLog (run : CommandLine.Run) : IO Unit := do
  let lines := run.log.map fun n => shown n.line ++ "\n"
  match run.logFile with
  | none => (← IO.getStderr).putStr (String.join lines)
  | some path =>
    let file ← IO.FS.Handle.mk path.toString .append
    file.putStr (String.join lines)

/-- Writes what a command line comes to, and gives its exit code. -/
def report (run : CommandLine.Run) : IO UInt32 := do
  writeLog run
  match run.ending with
  | .done output => IO.print output
  | .misuse m => IO.eprintln m.message
  | .fault f => IO.eprintln (shown f.message)
  return run.ending.code.toUInt32

end ProverLink.Program

/-- Runs the command line. -/
def main (arguments : List String) : IO UInt32 := do
  let files ← ProverLink.Program.readTree arguments
  let environment ← ProverLink.Program.readEnvironment
  ProverLink.Program.report (ProverLink.CommandLine.run files environment arguments)
