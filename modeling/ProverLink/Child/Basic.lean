import ProverLink.Fault

/-!
# Child processes

A checker as the program sees it: three pipes, a return code once it has ended, and how it takes the
request to end. What will arrive on a pipe stands in a queue; the end of a pipe is queued as well,
and what comes after it is lost.
-/

namespace ProverLink

/-- How a process takes the request to end. -/
inductive Temper where
  /-- Ends when asked to. -/
  | mild
  /-- Ends only when killed. -/
  | stubborn
  /-- Does not end. -/
  | immortal
deriving DecidableEq

/-- What a read from a pipe gives. -/
inductive Arrival where
  | bytes (bytes : List UInt8)
  | error (e : PipeError)
  | finish
deriving DecidableEq

/-- A pipe from a process. -/
structure Stream where
  queue : List Arrival := []
  ended : Bool := false
deriving DecidableEq

namespace Stream

/-- How many bytes one read gives at most. -/
def readSize : Nat := 65536

/-- Bytes in portions of at most `readSize`; each portion costs one unit of fuel. -/
def portions : Nat → List UInt8 → List (List UInt8)
  | 0, _ => []
  | fuel + 1, bytes =>
    if bytes.isEmpty then [] else bytes.take readSize :: portions fuel (bytes.drop readSize)

/-- Something arrives. -/
def arrive (s : Stream) (items : List Arrival) : Stream :=
  if s.ended then s else { s with queue := s.queue ++ items }

/-- Bytes arrive. -/
def push (s : Stream) (bytes : List UInt8) : Stream :=
  s.arrive ((portions (bytes.length / readSize + 1) bytes).map .bytes)

/-- The pipe ends. -/
def finish (s : Stream) : Stream :=
  if s.ended then s else { queue := s.queue ++ [.finish], ended := true }

end Stream

/-- The pipe to a process. -/
structure Stdin where
  attached : Bool := true
  closed : Bool := false
  /-- What the next writes meet; none stands for a write that is taken. -/
  script : List (Option PipeError) := []
  /-- What every write behind those of the script meets. -/
  writeError : Option PipeError := none
  closeError : Option PipeError := none
deriving DecidableEq

/-- A child process. -/
structure Child where
  code : Option Int := none
  terminated : Bool := false
  killed : Bool := false
  temper : Temper := .mild
  stdin : Stdin := {}
  stdout : Option Stream := some {}
  stderr : Option Stream := some {}
deriving DecidableEq

namespace Child

/-- The process ends with a code, unless it has ended before, and with it its pipes. -/
def exit (c : Child) (code : Int) : Child :=
  { c with
    code := c.code.or (some code)
    stdout := c.stdout.map (·.finish)
    stderr := c.stderr.map (·.finish) }

/-- The process is asked to end. -/
def terminate (c : Child) : Child :=
  let c := { c with terminated := true }
  if c.temper = .mild then c.exit (-15) else c

/-- The process is made to end. -/
def kill (c : Child) : Child :=
  let c := { c with killed := true }
  if c.temper = .immortal then c else c.exit (-9)

/-- What a write on standard input meets, if it is not taken. -/
def writeError? (c : Child) : Option PipeError :=
  (c.stdin.script.headD c.stdin.writeError).or
    (if c.stdin.closed then some (.value "write to closed file") else none)

/-- The process after a write was tried. -/
def afterWrite (c : Child) : Child :=
  { c with stdin := { c.stdin with script := c.stdin.script.tail } }

end Child

/-- How the next processes start. -/
structure SpawnPlan where
  error : Option PipeError := none
  stdin : Bool := true
  stdout : Bool := true
  stderr : Bool := true
  temper : Temper := .mild
  script : List (Option PipeError) := []
  writeError : Option PipeError := none
  closeError : Option OsError := none
deriving DecidableEq

/-- A process as it starts. -/
def SpawnPlan.child (p : SpawnPlan) : Child :=
  { temper := p.temper
    stdin :=
      { attached := p.stdin, script := p.script, writeError := p.writeError
        closeError := p.closeError.map .os }
    stdout := if p.stdout then some {} else none
    stderr := if p.stderr then some {} else none }

end ProverLink
