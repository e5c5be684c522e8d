import ProverLink.Number.Binary64

/-!
# The configuration

How the checker is started, and how long the program waits for it to end.
-/

namespace ProverLink

/-- The configuration of the program. -/
structure Config where
  executable : String := "fstar.exe"
  args : List String := []
  terminateTimeout : Binary64 := .ofInt 2
deriving DecidableEq

/-- The command that starts the checker on a file. -/
def Config.command (c : Config) (file : String) : List String :=
  c.executable :: c.args ++ ["--ide", file]

end ProverLink
